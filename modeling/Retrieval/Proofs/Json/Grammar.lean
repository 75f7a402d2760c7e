import Mathlib.Data.List.Basic
import Mathlib.Data.Rat.Defs
import Retrieval.Json.Value
import Retrieval.Json.Writer
import Retrieval.Text.Blank

/-!
# Spellings of values

The grammar of JSON: how a value may be written, apart from the scan that reads it. A half of a surrogate pair by itself
stands for no character, so that nothing is spelled with one.

* `SpellsChar`, `SpellsText` : a character in a string, and a string;
* `Numeral` : a number by its parts, with its magnitude;
* `Spells` : a text spells a value, with blanks around the value or around any value in it;
* `Value.Within` : no object repeats a key, no number is too large, and containers nest so deep at most;
* `Spells.exists_not_blank`, `Spells.of_append_return` : no spelling is blank, and a carriage return at its end may go;
* `spells_object`, `spells_array` : what is written for an object of texts and for an array spells them.
-/

namespace Retrieval.Json

/-- Blanks between tokens. -/
def Blanks (chars : List Char) : Prop := ∀ c ∈ chars, c = ' ' ∨ c = '\t' ∨ c = '\n' ∨ c = '\r'

/-! ## Strings -/

/-- The letters behind a backslash, and the characters that they stand for. -/
def escapes : List (Char × Char) :=
  [('"', '"'), ('\\', '\\'), ('/', '/'), ('b', '\x08'), ('f', '\x0C'), ('n', '\n'), ('r', '\r'), ('t', '\t')]

/-- A hexadecimal digit of either case, and its value. -/
def IsHexDigit (c : Char) (n : Nat) : Prop :=
  "0123456789abcdef".toList[n]? = some c ∨ "0123456789ABCDEF".toList[n]? = some c

/-- Four hexadecimal digits spell a number of sixteen bits. -/
inductive SpellsUnit : List Char → Nat → Prop where
  | mk {a b c d : Char} {w x y z : Nat} (ha : IsHexDigit a w) (hb : IsHexDigit b x) (hc : IsHexDigit c y)
      (hd : IsHexDigit d z) : SpellsUnit [a, b, c, d] (((w * 16 + x) * 16 + y) * 16 + z)

/-- The ways to write a character in a string. One beyond the first 65536 may be written as a surrogate pair. -/
inductive SpellsChar : List Char → Char → Prop where
  | plain {c : Char} (hcontrol : 0x20 ≤ c.toNat) (hquote : c ≠ '"') (hbackslash : c ≠ '\\') : SpellsChar [c] c
  | escape {letter c : Char} (h : (letter, c) ∈ escapes) : SpellsChar ['\\', letter] c
  | unit {digits : List Char} {c : Char} (h : SpellsUnit digits c.toNat) : SpellsChar ('\\' :: 'u' :: digits) c
  | pair {front back : List Char} {high low : Nat} {c : Char} (hhigh : high < 0x400) (hlow : low < 0x400)
      (hfront : SpellsUnit front (0xD800 + high)) (hback : SpellsUnit back (0xDC00 + low))
      (hc : c.toNat = 0x10000 + high * 0x400 + low) : SpellsChar ('\\' :: 'u' :: front ++ '\\' :: 'u' :: back) c

/-- A string: its characters in quotation marks. -/
inductive SpellsText : List Char → String → Prop where
  | mk (parts : List (List Char × Char)) (h : ∀ p ∈ parts, SpellsChar p.1 p.2) :
      SpellsText ('"' :: parts.flatMap (·.1) ++ ['"']) (.ofList (parts.map (·.2)))

/-! ## Numbers -/

/-- A power of ten behind a number. -/
structure Exponent where
  mark : Char
  sign : List Char
  digits : List Char
  mark_mem : mark ∈ ['e', 'E']
  sign_mem : sign ∈ [[], ['+'], ['-']]
  isDigit : ∀ c ∈ digits, c.isDigit
  digits_ne_nil : digits ≠ []

def Exponent.chars (e : Exponent) : List Char := e.mark :: (e.sign ++ e.digits)

def Exponent.value (e : Exponent) : Int :=
  if e.sign = ['-'] then -Scan.digitsValue e.digits else Scan.digitsValue e.digits

/-- A number by its parts. No digit stands behind a leading zero. -/
structure Numeral where
  isNegative : Bool
  whole : List Char
  fraction : List Char
  exponent : Option Exponent
  isDigit_whole : ∀ c ∈ whole, c.isDigit
  isDigit_fraction : ∀ c ∈ fraction, c.isDigit
  whole_ne_nil : whole ≠ []
  eq_zero_of_head? : whole.head? = some '0' → whole = ['0']

namespace Numeral

def chars (n : Numeral) : List Char :=
  (if n.isNegative then ['-'] else []) ++ n.whole ++ (if n.fraction = [] then [] else '.' :: n.fraction) ++
    n.exponent.elim [] Exponent.chars

def magnitude (n : Numeral) : ℚ :=
  Scan.digitsValue (n.whole ++ n.fraction) * 10 ^ (n.exponent.elim 0 Exponent.value - n.fraction.length)

/-- The numbers that are finite. Those up to the third greatest of double precision all are; above, it depends on how they
are written, since the digits and the power of ten are rounded before they are multiplied. -/
def InRange (n : Numeral) : Prop := n.magnitude ≤ 2 ^ 1024 - 3 * 2 ^ 971 ∨ Scan.spellingInRange n.chars = true

end Numeral

/-! ## Values -/

def Literal.word : Literal → List Char
  | .null => "null".toList
  | .true => "true".toList
  | .false => "false".toList

/-- A field of an object with its spelling. -/
structure Member where
  keyChars : List Char
  key : String
  valueChars : List Char
  value : Value

def Member.chars (m : Member) : List Char := m.keyChars ++ ':' :: m.valueChars

/-- A key: a string with blanks around it. -/
inductive SpellsKey : List Char → String → Prop where
  | mk {before chars after : List Char} {s : String} (hbefore : Blanks before) (hafter : Blanks after)
      (h : SpellsText chars s) : SpellsKey (before ++ chars ++ after) s

/-- A text spells a value. -/
inductive Spells : List Char → Value → Prop where
  | literal (l : Literal) : Spells l.word (.literal l)
  | number (n : Numeral) : Spells n.chars (.number (.ofList n.chars))
  | text {chars : List Char} {s : String} (h : SpellsText chars s) : Spells chars (.text s)
  | array (blanks : List Char) (parts : List (List Char × Value)) (hblanks : Blanks blanks)
      (h : ∀ p ∈ parts, Spells p.1 p.2) :
      Spells ('[' :: blanks ++ [','].intercalate (parts.map (·.1)) ++ [']']) (.array (parts.map (·.2)))
  | object (blanks : List Char) (members : List Member) (hblanks : Blanks blanks)
      (hkey : ∀ m ∈ members, SpellsKey m.keyChars m.key) (hvalue : ∀ m ∈ members, Spells m.valueChars m.value) :
      Spells ('\x7b' :: blanks ++ [','].intercalate (members.map (·.chars)) ++ ['\x7d'])
        (.object (members.map fun m => (m.key, m.value)))
  | padded {before chars after : List Char} {v : Value} (hbefore : Blanks before) (hafter : Blanks after)
      (h : Spells chars v) : Spells (before ++ chars ++ after) v

/-- No object repeats a key, every number is in range, and at most so many containers are open at once. -/
inductive Value.Within : Nat → Value → Prop where
  | literal (depth : Nat) (l : Literal) : Within depth (.literal l)
  | number (depth : Nat) (n : Numeral) (h : n.InRange) : Within depth (.number (.ofList n.chars))
  | text (depth : Nat) (s : String) : Within depth (.text s)
  | array {depth : Nat} {items : List Value} (h : ∀ v ∈ items, v.Within depth) : Within (depth + 1) (.array items)
  | object {depth : Nat} {fields : List (String × Value)} (hkeys : (fields.map (·.1)).Nodup)
      (h : ∀ f ∈ fields, f.2.Within depth) : Within (depth + 1) (.object fields)

theorem Value.Within.mono {depth more : Nat} {v : Value} (h : v.Within depth) (hle : depth ≤ more) : v.Within more := by
  induction h generalizing more with
  | literal _ l => exact .literal more l
  | number _ n hrange => exact .number more n hrange
  | text _ s => exact .text more s
  | array _ ih =>
    obtain _ | more := more
    · cases hle
    · exact .array fun v hv => ih v hv (Nat.le_of_succ_le_succ hle)
  | object hkeys _ ih =>
    obtain _ | more := more
    · cases hle
    · exact .object hkeys fun f hf => ih f hf (Nat.le_of_succ_le_succ hle)

/-! ## Blank ends -/

theorem digit_ne {c d : Char} (hc : c.isDigit) (hd : ¬ d.isDigit) : c ≠ d := fun h => hd (h ▸ hc)

theorem isBlank_of_isDigit {c : Char} (h : c.isDigit) : Text.isBlank c = false := by
  have hbounds : 48 ≤ c.toNat ∧ c.toNat ≤ 57 := by
    simpa [Char.isDigit, UInt32.le_iff_toNat_le] using h
  simp only [Text.isBlank]
  generalize c.toNat = n at hbounds
  simp
  omega

variable {chars : List Char} {v : Value}

/-- No spelling is blank, whatever counts as a blank in a text. -/
theorem Spells.exists_not_blank (h : Spells chars v) : ∃ c ∈ chars, Text.isBlank c = false := by
  induction h with
  | literal l =>
    cases l with
    | null => exact ⟨'n', by decide, by decide⟩
    | true => exact ⟨'t', by decide, by decide⟩
    | false => exact ⟨'f', by decide, by decide⟩
  | number n =>
    obtain ⟨c, hc⟩ := List.exists_mem_of_ne_nil _ n.whole_ne_nil
    refine ⟨c, ?_, isBlank_of_isDigit (n.isDigit_whole c hc)⟩
    simp [Numeral.chars, hc]
  | text h =>
    cases h
    exact ⟨'"', List.mem_cons_self, by decide⟩
  | array => exact ⟨'[', List.mem_cons_self, by decide⟩
  | object => exact ⟨'\x7b', List.mem_cons_self, by decide⟩
  | padded _ _ _ ih =>
    obtain ⟨c, hc, hblank⟩ := ih
    exact ⟨c, List.mem_append_left _ (List.mem_append_right _ hc), hblank⟩

theorem Numeral.return_not_mem (n : Numeral) : '\r' ∉ n.chars := by
  have hdigits {digits : List Char} (h : ∀ c ∈ digits, c.isDigit) : '\r' ∉ digits :=
    fun hmem => digit_ne (h _ hmem) (by decide) rfl
  have hexponent (e : Exponent) : '\r' ∉ e.chars := by
    have hmark : '\r' ≠ e.mark := by
      obtain h | h : e.mark = 'e' ∨ e.mark = 'E' := by simpa using e.mark_mem
      all_goals simp [h]
    have hsign : '\r' ∉ e.sign := by
      obtain h | h | h : e.sign = [] ∨ e.sign = ['+'] ∨ e.sign = ['-'] := by simpa using e.sign_mem
      all_goals simp [h]
    simp [Exponent.chars, hmark, hsign, hdigits e.isDigit]
  rw [Numeral.chars, List.mem_append, List.mem_append, List.mem_append, not_or, not_or, not_or]
  refine ⟨⟨⟨?_, hdigits n.isDigit_whole⟩, ?_⟩, ?_⟩
  · split_ifs
    · decide
    · exact List.not_mem_nil
  · split_ifs
    · exact List.not_mem_nil
    · exact List.not_mem_cons_of_ne_of_not_mem (by decide) (hdigits n.isDigit_fraction)
  · cases n.exponent with
    | none => exact List.not_mem_nil
    | some e => exact hexponent e

/-- A carriage return behind a value is a blank like others. -/
theorem Spells.of_append_return (h : Spells (chars ++ ['\r']) v) : Spells chars v := by
  generalize htext : chars ++ ['\r'] = text at h
  have hmem : '\r' ∈ text := htext ▸ List.mem_append_right _ List.mem_cons_self
  have hlast : text.getLast? = some '\r' := by rw [← htext, List.getLast?_concat]
  induction h generalizing chars with
  | literal l =>
    exfalso
    cases l <;> revert hmem <;> decide
  | number n => exact absurd hmem n.return_not_mem
  | text h =>
    cases h
    rw [List.getLast?_concat] at hlast
    cases hlast
  | array =>
    rw [List.getLast?_concat] at hlast
    cases hlast
  | object =>
    rw [List.getLast?_concat] at hlast
    cases hlast
  | @padded before inner after v hbefore hafter h ih =>
    obtain rfl | ⟨front, last, rfl⟩ := after.eq_nil_or_concat'
    · obtain rfl | ⟨front, last, rfl⟩ := inner.eq_nil_or_concat'
      · obtain ⟨c, hc, -⟩ := h.exists_not_blank
        cases hc
      · rw [List.append_nil, ← List.append_assoc] at htext
        obtain ⟨rfl, hreturn⟩ := List.append_inj' htext rfl
        obtain rfl : '\r' = last := by simpa using hreturn
        have hfront := ih rfl (List.mem_append_right _ List.mem_cons_self) List.getLast?_concat
        simpa using Spells.padded hbefore hafter hfront
    · rw [← List.append_assoc] at htext
      obtain ⟨rfl, -⟩ := List.append_inj' htext rfl
      exact .padded hbefore (fun c hc => hafter c (List.mem_append_left _ hc)) h

/-! ## What is written -/

theorem spellsChar_quoteChar (c : Char) : SpellsChar (quoteChar c) c := by
  unfold quoteChar
  split_ifs with hquote hbackslash h1 h2 h3 h4 h5 hcontrol
  -- the characters with a letter of their own
  all_goals try
    subst c
    exact .escape (by decide)
  · have hdigit : ∀ n < 16, IsHexDigit (Nat.digitChar n) n := by
      unfold IsHexDigit
      decide
    have hzero : IsHexDigit '0' 0 := hdigit 0 (by decide)
    have hunit := SpellsUnit.mk hzero hzero (hdigit (c.toNat / 16) (by omega)) (hdigit (c.toNat % 16) (by omega))
    have hvalue : ((0 * 16 + 0) * 16 + c.toNat / 16) * 16 + c.toNat % 16 = c.toNat := by omega
    rw [hvalue] at hunit
    exact .unit hunit
  · exact .plain (Nat.le_of_not_lt hcontrol) hquote hbackslash

theorem spellsText_quote (s : String) : SpellsText (quote s.toList) s := by
  have hparts : ∀ p ∈ s.toList.map (fun c => (quoteChar c, c)), SpellsChar p.1 p.2 := by
    intro p hp
    obtain ⟨c, -, rfl⟩ := List.mem_map.1 hp
    exact spellsChar_quoteChar c
  have h := SpellsText.mk _ hparts
  rw [List.flatMap_map, List.map_map] at h
  have hchars : s.toList.map ((fun p : List Char × Char => p.2) ∘ fun c => (quoteChar c, c)) = s.toList := List.map_id _
  rw [hchars, String.ofList_toList] at h
  exact h

def memberOf (f : String × String) : Member := ⟨quote f.1.toList, f.1, quote f.2.toList, .text f.2⟩

theorem chars_memberOf (f : String × String) : (memberOf f).chars = field f := by
  rw [Member.chars, field, List.append_assoc]
  rfl

theorem spells_object (fields : List (String × String)) :
    Spells (object fields) (.object (fields.map fun f => (f.1, .text f.2))) := by
  have hnone : Blanks [] := fun c hc => absurd hc List.not_mem_nil
  have hkeys : ∀ m ∈ fields.map memberOf, SpellsKey m.keyChars m.key := by
    intro m hm
    obtain ⟨f, -, rfl⟩ := List.mem_map.1 hm
    have hkey := SpellsKey.mk hnone hnone (spellsText_quote f.1)
    rwa [List.nil_append, List.append_nil] at hkey
  have hvalues : ∀ m ∈ fields.map memberOf, Spells m.valueChars m.value := by
    intro m hm
    obtain ⟨f, -, rfl⟩ := List.mem_map.1 hm
    exact .text (spellsText_quote f.2)
  have h := Spells.object [] (fields.map memberOf) hnone hkeys hvalues
  rw [List.map_map, List.map_map] at h
  have hchars : (fun m : Member => m.chars) ∘ memberOf = field := funext chars_memberOf
  rw [hchars] at h
  exact h

theorem spells_array {texts : List (List Char)} {values : List Value} (h : List.Forall₂ Spells texts values) :
    Spells ('[' :: [','].intercalate texts ++ [']']) (.array values) := by
  obtain ⟨parts, hparts, rfl, rfl⟩ : ∃ parts : List (List Char × Value), (∀ p ∈ parts, Spells p.1 p.2) ∧
      parts.map (·.1) = texts ∧ parts.map (·.2) = values := by
    induction h with
    | nil => exact ⟨[], List.forall_mem_nil _, rfl, rfl⟩
    | @cons text v texts values hv _ ih =>
      obtain ⟨parts, hparts, rfl, rfl⟩ := ih
      exact ⟨(text, v) :: parts, List.forall_mem_cons.2 ⟨hv, hparts⟩, rfl, rfl⟩
  exact Spells.array [] parts (fun c hc => absurd hc List.not_mem_nil) hparts

end Retrieval.Json
