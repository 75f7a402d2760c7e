import Retrieval.Proofs.Json.Grammar
import Retrieval.Proofs.Text.CodeTable

/-!
# The scan of a spelling

A spelling is cut into the tokens of its value, whatever follows it. Only a number has to be told apart from what
follows, since it has no end of its own.

* `Value.tokens` : the tokens of a value;
* `Delimits` : what may stand behind a number;
* `Spells.tokensOf_append` : a spelling in front of a text;
* `Spells.scan_eq` : a spelling by itself.
-/

namespace Retrieval.Json

/-! ## Tokens of a value -/

/-- The token of a string. -/
def Token.ofText (s : String) : Token := .text ⟨.ok s, .ok ()⟩

/-- The token of a number, which can be skipped even if it is out of range. -/
def Token.ofNumber (spelling : String) : Token := Scan.numberToken spelling.toList.reverse

mutual

def Value.tokens : Value → List Token
  | .literal l => [.literal l]
  | .number spelling => [.ofNumber spelling]
  | .text s => [.ofText s]
  | .array items => .leftBracket :: [.comma].intercalate (itemTokens items) ++ [.rightBracket]
  | .object fields => .leftBrace :: [.comma].intercalate (fieldTokens fields) ++ [.rightBrace]

def Value.itemTokens : List Value → List (List Token)
  | [] => []
  | v :: rest => v.tokens :: itemTokens rest

def Value.fieldTokens : List (String × Value) → List (List Token)
  | [] => []
  | (key, v) :: rest => (.ofText key :: .colon :: v.tokens) :: fieldTokens rest

end

theorem Value.itemTokens_eq (items : List Value) : itemTokens items = items.map tokens := by
  induction items with
  | nil => rw [itemTokens, List.map_nil]
  | cons v rest ih => rw [itemTokens, ih, List.map_cons]

theorem Value.fieldTokens_eq (fields : List (String × Value)) :
    fieldTokens fields = fields.map fun f => .ofText f.1 :: .colon :: f.2.tokens := by
  induction fields with
  | nil => rw [fieldTokens, List.map_nil]
  | cons f rest ih => rw [fieldTokens, ih, List.map_cons]

/-! ## Single characters -/

open Scan (tokensFrom)

def tokensOf (state : Scan.State) (chars : List Char) : List Token := tokensFrom state (chars.map some)

variable {state : Scan.State} {c : Char} {chars rest : List Char}

theorem tokensOf_cons : tokensOf state (c :: rest) =
    (Scan.step state (some c)).2 ++ tokensOf (Scan.step state (some c)).1 rest := by
  rw [tokensOf, List.map_cons, tokensFrom]
  generalize Scan.step state (some c) = result
  obtain ⟨next, _ | ⟨t, tokens⟩⟩ := result
  · rfl
  · rfl

theorem tokensOf_blanks (h : Blanks chars) : tokensOf .between (chars ++ rest) = tokensOf .between rest := by
  induction chars with
  | nil => rfl
  | cons c chars ih =>
    obtain ⟨hc, hchars⟩ := List.forall_mem_cons.1 h
    have hstep : Scan.step .between (some c) = (.between, []) := by
      obtain rfl | rfl | rfl | rfl := hc
      all_goals rfl
    rw [List.cons_append, tokensOf_cons, hstep, List.nil_append, ih hchars]

theorem tokensOf_word (l : Literal) : tokensOf .between (l.word ++ rest) = .literal l :: tokensOf .between rest := by
  cases l
  all_goals rfl

/-! ## Strings -/

theorem hexValue?_of_isHexDigit {n : Nat} (h : IsHexDigit c n) : Scan.hexValue? c = some n := by
  obtain h | h := h
  · have htable : ∀ n < 16, "0123456789abcdef".toList[n]?.bind Scan.hexValue? = some n := by decide
    rw [← htable n (List.getElem?_eq_some_iff.1 h).1, h, Option.bind_some]
  · have htable : ∀ n < 16, "0123456789ABCDEF".toList[n]?.bind Scan.hexValue? = some n := by decide
    rw [← htable n (List.getElem?_eq_some_iff.1 h).1, h, Option.bind_some]

theorem utf8Size_of_isHexDigit {n : Nat} (h : IsHexDigit c n) : c.utf8Size = 1 := by
  obtain h | h := h
  · have htable : "0123456789abcdef".toList.all (·.utf8Size = 1) = true := by decide
    exact of_decide_eq_true (List.all_eq_true.1 htable c (List.mem_of_getElem? h))
  · have htable : "0123456789ABCDEF".toList.all (·.utf8Size = 1) = true := by decide
    exact of_decide_eq_true (List.all_eq_true.1 htable c (List.mem_of_getElem? h))

/-- Four digits are taken one by one, and looked at together. -/
theorem tokensOf_hex {digits : List Char} {unit : Nat} (h : SpellsUnit digits unit) (high : Option Nat)
    (content : Scan.Content) : tokensOf (.string (.hex high [] 0) content) (digits ++ rest) =
      tokensOf (.string (Scan.unitRead high unit content).1 (Scan.unitRead high unit content).2) rest := by
  obtain @⟨a, b, c, d, w, x, y, z, ha, hb, hc, hd⟩ := h
  have hnumber : Scan.hexNumber? [d, c, b, a] = some (((w * 16 + x) * 16 + y) * 16 + z) := by
    simp [Scan.hexNumber?, hexValue?_of_isHexDigit ha, hexValue?_of_isHexDigit hb, hexValue?_of_isHexDigit hc,
      hexValue?_of_isHexDigit hd]
  simp [tokensOf_cons, Scan.step, Scan.stringStep, Scan.hexStep, utf8Size_of_isHexDigit ha, utf8Size_of_isHexDigit hb,
    utf8Size_of_isHexDigit hc, utf8Size_of_isHexDigit hd, hnumber]

theorem plainStep_eq {content : Scan.Content} (hcontrol : 0x20 ≤ c.toNat) (hquote : c ≠ '"') (hbackslash : c ≠ '\\') :
    Scan.plainStep content (some c) = (.string .plain (content.push (some c)), []) := by
  rw [Scan.plainStep.eq_def]
  split
  · next h => exact absurd (Option.some.inj h) hquote
  · next h => exact absurd (Option.some.inj h) hbackslash
  · next h =>
    cases h
    rw [if_neg (Nat.not_lt.2 hcontrol)]
  · next h => cases h

theorem escapeStep_eq {content : Scan.Content} {letter : Char} (h : (letter, c) ∈ escapes) :
    Scan.escapeStep content (some letter) = (.string .plain (content.push (some c)), []) := by
  have htable : ∀ p ∈ escapes, Scan.escaped? p.1 = some p.2 ∧ p.1 ≠ 'u' := by decide
  obtain ⟨hescaped, hu⟩ := htable _ h
  rw [Scan.escapeStep.eq_def]
  split
  · next h => exact absurd (Option.some.inj h) hu
  · next h =>
    cases h
    rw [hescaped]
  · next h => cases h

/-- A unit that is a character by itself is no half of a pair. -/
theorem unitRead_toNat (content : Scan.Content) (c : Char) :
    Scan.unitRead none c.toNat content = (.plain, content.push (some c)) := by
  have hvalid := Text.CodeSet.not_surrogate c
  have hlow : ¬ (0xDC00 ≤ c.toNat ∧ c.toNat ≤ 0xDFFF) := by omega
  have hhigh : ¬ (0xD800 ≤ c.toNat ∧ c.toNat ≤ 0xDBFF) := by omega
  simp [Scan.unitRead, hlow, hhigh, Char.ofNat_toNat]

theorem unitRead_high (content : Scan.Content) {high : Nat} (h : high < 0x400) :
    Scan.unitRead none (0xD800 + high) content = (.pairBackslash (0xD800 + high), content) := by
  have hlow : ¬ (0xDC00 ≤ 0xD800 + high ∧ 0xD800 + high ≤ 0xDFFF) := by omega
  have hhigh : 0xD800 ≤ 0xD800 + high ∧ 0xD800 + high ≤ 0xDBFF := by omega
  simp only [Scan.unitRead, Bool.and_eq_true, decide_eq_true_iff, if_neg hlow, if_pos hhigh]

theorem unitRead_low (content : Scan.Content) {high low : Nat} (h : low < 0x400)
    (hc : c.toNat = 0x10000 + high * 0x400 + low) :
    Scan.unitRead (some (0xD800 + high)) (0xDC00 + low) content = (.plain, content.push (some c)) := by
  have hlow : 0xDC00 ≤ 0xDC00 + low ∧ 0xDC00 + low ≤ 0xDFFF := by omega
  have hcode : 0x10000 + (0xD800 + high - 0xD800) * 0x400 + (0xDC00 + low - 0xDC00) = c.toNat := by
    rw [hc, Nat.add_sub_cancel_left, Nat.add_sub_cancel_left]
  simp only [Scan.unitRead, Bool.and_eq_true, decide_eq_true_iff, if_pos hlow, hcode, Char.ofNat_toNat]

/-- However a character is written, it is the next one of the string. -/
theorem tokensOf_char {done : List Text.Symbol} (h : SpellsChar chars c) :
    tokensOf (.string .plain (.ok done)) (chars ++ rest) = tokensOf (.string .plain (.ok (some c :: done))) rest := by
  cases h with
  | plain hcontrol hquote hbackslash =>
    rw [List.singleton_append, tokensOf_cons, Scan.step, Scan.stringStep, plainStep_eq hcontrol hquote hbackslash]
    rfl
  | @escape letter c hmem =>
    have hstep : Scan.step (.string .escape (.ok done)) (some letter) = (.string .plain (.ok (some c :: done)), []) :=
      escapeStep_eq hmem
    rw [List.cons_append, List.singleton_append, tokensOf_cons]
    change tokensOf (.string .escape (.ok done)) (letter :: rest) = _
    rw [tokensOf_cons, hstep, List.nil_append]
  | @unit digits c hunit =>
    rw [List.cons_append, List.cons_append, tokensOf_cons, tokensOf_cons]
    change tokensOf (.string (.hex none [] 0) (.ok done)) (digits ++ rest) = _
    rw [tokensOf_hex hunit, unitRead_toNat]
    rfl
  | @pair front back high low c hhigh hlow hfront hback hc =>
    rw [List.append_assoc, List.cons_append, List.cons_append, tokensOf_cons, tokensOf_cons]
    change tokensOf (.string (.hex none [] 0) (.ok done)) (front ++ _) = _
    rw [tokensOf_hex hfront, unitRead_high _ hhigh, List.cons_append, List.cons_append, tokensOf_cons, tokensOf_cons]
    change tokensOf (.string (.hex (some (0xD800 + high)) [] 0) (.ok done)) (back ++ rest) = _
    rw [tokensOf_hex hback, unitRead_low _ hlow hc]
    rfl

theorem closeContent_eq (chars : List Char) :
    Scan.closeContent (.ok (chars.map some).reverse) = .ok (.ofList chars) := by
  have hall : (chars.map some).mapM id = some chars := by
    induction chars with
    | nil => rfl
    | cons c chars ih => rw [List.map_cons, List.mapM_cons, ih]; rfl
  simp only [Scan.closeContent, Except.bind, List.reverse_reverse, hall]

theorem tokensOf_text {s : String} (h : SpellsText chars s) :
    tokensOf .between (chars ++ rest) = .ofText s :: tokensOf .between rest := by
  obtain ⟨parts, hparts⟩ := h
  have hinside (done : List Text.Symbol) : tokensOf (.string .plain (.ok done)) (parts.flatMap (·.1) ++ '"' :: rest) =
      tokensOf (.string .plain (.ok (((parts.map (·.2)).map some).reverse ++ done))) ('"' :: rest) := by
    induction parts generalizing done with
    | nil => rfl
    | cons p parts ih =>
      obtain ⟨hp, hparts⟩ := List.forall_mem_cons.1 hparts
      rw [List.flatMap_cons, List.append_assoc, tokensOf_char hp, ih hparts]
      simp
  rw [List.cons_append, List.cons_append, List.append_assoc, tokensOf_cons]
  change tokensOf (.string .plain (.ok [])) (parts.flatMap (·.1) ++ '"' :: rest) = _
  rw [hinside, List.append_nil, tokensOf_cons]
  change [.text ⟨Scan.closeContent _, .ok ()⟩] ++ tokensOf .between rest = _
  rw [closeContent_eq]
  rfl

/-! ## Numbers -/

open Scan (NumberPart)

/-- What may stand behind a number: nothing that would belong to it. -/
def Delimits (rest : List Char) : Prop := ∀ c ∈ rest.head?, ¬ c.isDigit ∧ c ≠ '.' ∧ c ≠ 'e' ∧ c ≠ 'E'

/-- Characters continue a number from one part to another. -/
def Continues (part : NumberPart) (chars : List Char) (next : NumberPart) : Prop :=
  chars.foldlM NumberPart.next? part = some next

theorem Continues.append {part middle next : NumberPart} {more : List Char} (h : Continues part chars middle)
    (h' : Continues middle more next) : Continues part (chars ++ more) next := by
  rw [Continues, List.foldlM_append, h]
  exact h'

theorem Continues.tokensOf_eq {part next : NumberPart} {spelling : List Char} (h : Continues part chars next) :
    tokensOf (.number part spelling) (chars ++ rest) = tokensOf (.number next (chars.reverse ++ spelling)) rest := by
  induction chars generalizing part spelling with
  | nil =>
    cases h
    rfl
  | cons c chars ih =>
    obtain ⟨middle, hc, hchars⟩ := Option.bind_eq_some_iff.1 h
    have hstep : Scan.step (.number part spelling) (some c) = (.number middle (c :: spelling), []) := by
      rw [Scan.step, Scan.numberStep, Option.bind_some, hc]
      rfl
    rw [List.cons_append, tokensOf_cons, hstep, List.nil_append, ih hchars, List.reverse_cons, List.append_assoc]
    rfl

theorem Continues.cons {part middle next : NumberPart} (hc : part.next? c = some middle)
    (h : Continues middle chars next) : Continues part (c :: chars) next := by
  rw [Continues, List.foldlM_cons, hc]
  exact h

/-- Where one digit leads to, all further ones stay. -/
theorem Continues.digits {part next : NumberPart} (hfirst : ∀ c, c.isDigit → part.next? c = some next)
    (hloop : ∀ c, c.isDigit → next.next? c = some next) (h : ∀ c ∈ chars, c.isDigit) (hne : chars ≠ []) :
    Continues part chars next := by
  induction chars generalizing part with
  | nil => exact absurd rfl hne
  | cons c chars ih =>
    obtain ⟨hc, hchars⟩ := List.forall_mem_cons.1 h
    refine .cons (hfirst c hc) ?_
    cases chars with
    | nil => rfl
    | cons d chars => exact ih hloop hchars (List.cons_ne_nil _ _)

theorem Continues.whole (n : Numeral) : ∃ next, (next = .zero ∨ next = .whole) ∧ Continues .minus n.whole next := by
  obtain ⟨d, ds, hwhole⟩ := List.exists_cons_of_ne_nil n.whole_ne_nil
  have hdigits := n.isDigit_whole
  rw [hwhole, List.forall_mem_cons] at hdigits
  by_cases hd : d = '0'
  · refine ⟨.zero, .inl rfl, ?_⟩
    rw [n.eq_zero_of_head? (by rw [hwhole, List.head?_cons, hd])]
    rfl
  · have hfirst : NumberPart.minus.next? d = some .whole := by
      rw [NumberPart.next?, if_neg hd, if_pos hdigits.1]
    have hloop : ∀ c, c.isDigit → NumberPart.whole.next? c = some .whole := by
      intro c hc
      rw [NumberPart.next?, if_pos hc]
    refine ⟨.whole, .inr rfl, ?_⟩
    rw [hwhole]
    refine .cons hfirst ?_
    obtain rfl | hne := eq_or_ne ds []
    · rfl
    · exact .digits hloop hloop hdigits.2 hne

theorem Continues.fraction (n : Numeral) {part : NumberPart} (hpart : part = .zero ∨ part = .whole) :
    ∃ next, (next = .zero ∨ next = .whole ∨ next = .fraction) ∧
      Continues part (if n.fraction = [] then [] else '.' :: n.fraction) next := by
  split_ifs with hnone
  · obtain rfl | rfl := hpart
    · exact ⟨.zero, .inl rfl, rfl⟩
    · exact ⟨.whole, .inr (.inl rfl), rfl⟩
  · have hpoint : part.next? '.' = some .point := by
      obtain rfl | rfl := hpart
      · rfl
      · rfl
    refine ⟨.fraction, .inr (.inr rfl), .cons hpoint (.digits ?_ ?_ n.isDigit_fraction hnone)⟩
    all_goals
      intro c hc
      rw [NumberPart.next?, if_pos hc]

theorem Continues.exponent (e : Exponent) {part : NumberPart}
    (hpart : part = .zero ∨ part = .whole ∨ part = .fraction) : Continues part e.chars .exponentDigits := by
  have hmark : part.next? e.mark = some .exponent := by
    obtain rfl | rfl | rfl := hpart
    all_goals
      obtain h | h : e.mark = 'e' ∨ e.mark = 'E' := by simpa using e.mark_mem
      all_goals
        rw [h]
        rfl
  have hloop : ∀ c, c.isDigit → NumberPart.exponentDigits.next? c = some .exponentDigits := by
    intro c hc
    rw [NumberPart.next?, if_pos hc]
  have hsigned : ∀ c, c.isDigit → NumberPart.exponentSign.next? c = some .exponentDigits := by
    intro c hc
    rw [NumberPart.next?, if_pos hc]
  have hunsigned : ∀ c, c.isDigit → NumberPart.exponent.next? c = some .exponentDigits := by
    intro c hc
    have hplus := digit_ne hc (d := '+') (by decide)
    have hminus := digit_ne hc (d := '-') (by decide)
    simp [NumberPart.next?, hplus, hminus, hc]
  refine .cons hmark ?_
  obtain h | h | h : e.sign = [] ∨ e.sign = ['+'] ∨ e.sign = ['-'] := by simpa using e.sign_mem
  · rw [h]
    exact .digits hunsigned hloop e.isDigit e.digits_ne_nil
  · rw [h]
    exact .cons rfl (.digits hsigned hloop e.isDigit e.digits_ne_nil)
  · rw [h]
    exact .cons rfl (.digits hsigned hloop e.isDigit e.digits_ne_nil)

/-- What a number is written with leads to where it may end. -/
theorem Continues.numeral (n : Numeral) : ∃ next : NumberPart, next.complete ∧ Continues .minus
    (n.whole ++ (if n.fraction = [] then [] else '.' :: n.fraction) ++ n.exponent.elim [] Exponent.chars) next := by
  obtain ⟨part, hpart, hwhole⟩ := Continues.whole n
  obtain ⟨next, hnext, hfraction⟩ := Continues.fraction n hpart
  cases n.exponent with
  | none =>
    refine ⟨next, ?_, (hwhole.append hfraction).append rfl⟩
    obtain rfl | rfl | rfl := hnext
    all_goals rfl
  | some e => exact ⟨.exponentDigits, rfl, (hwhole.append hfraction).append (Continues.exponent e hnext)⟩

theorem startToken_digit {part : NumberPart} (hc : c.isDigit) (h : NumberPart.minus.next? c = some part) :
    Scan.startToken (some c) = (.number part [c], []) := by
  have hne (d : Char) (hd : ¬ d.isDigit) : c ≠ d := digit_ne hc hd
  rw [NumberPart.next?, if_pos hc] at h
  simp only [Scan.startToken, hne ' ' (by decide), hne '\n' (by decide), hne '\t' (by decide), hne '\r' (by decide),
    hne '[' (by decide), hne ']' (by decide), hne '\x7b' (by decide), hne '\x7d' (by decide), hne ',' (by decide),
    hne ':' (by decide), hne '"' (by decide), hne '-' (by decide), decide_false, Bool.or_false, Bool.false_eq_true,
    if_false, hc, if_true]
  split_ifs with hzero
  · rw [if_pos hzero] at h
    rw [← Option.some.inj h]
  · rw [if_neg hzero] at h
    rw [← Option.some.inj h]

theorem tokensOf_delimits {part : NumberPart} {spelling : List Char} (hpart : part.complete) (hrest : Delimits rest) :
    tokensOf (.number part spelling) rest = Scan.numberToken spelling :: tokensOf .between rest := by
  cases rest with
  | nil =>
    rw [tokensOf, List.map_nil, tokensFrom, Scan.finish, if_pos hpart]
    rfl
  | cons c rest =>
    obtain ⟨hdigit, hpoint, he, hE⟩ := hrest c rfl
    have hnext : part.next? c = none := by
      cases part
      case zero | whole | fraction | exponentDigits => simp [NumberPart.next?, hdigit, hpoint, he, hE]
      all_goals cases hpart
    have hstep : Scan.step (.number part spelling) (some c) =
        ((Scan.step .between (some c)).1, Scan.numberToken spelling :: (Scan.step .between (some c)).2) := by
      have hstays : ¬ ((!part.complete || (part = .zero && (some c).any Char.isDigit)) = true) := by
        simp [hpart, hdigit]
      change Scan.numberStep part spelling (some c) = _
      rw [Scan.numberStep.eq_def, Option.bind_some, hnext, Option.map_none]
      dsimp only
      rw [if_neg hstays]
      rfl
    rw [tokensOf_cons, hstep, tokensOf_cons]
    rfl

theorem tokensOf_number (n : Numeral) (hrest : Delimits rest) :
    tokensOf .between (n.chars ++ rest) = .ofNumber (.ofList n.chars) :: tokensOf .between rest := by
  have htoken : Scan.numberToken n.chars.reverse = .ofNumber (.ofList n.chars) := by
    rw [Token.ofNumber, String.toList_ofList]
  obtain ⟨next, hcomplete, hbody⟩ := Continues.numeral n
  obtain ⟨d, ds, hwhole⟩ := List.exists_cons_of_ne_nil n.whole_ne_nil
  have hd : d.isDigit := n.isDigit_whole d (hwhole ▸ List.mem_cons_self)
  obtain ⟨more, hmore⟩ : ∃ more, n.whole ++ (if n.fraction = [] then [] else '.' :: n.fraction) ++
      n.exponent.elim [] Exponent.chars = d :: more := ⟨_, by rw [hwhole, List.cons_append, List.cons_append]⟩
  have hchars : n.chars = (if n.isNegative then ['-'] else []) ++ d :: more := by
    rw [← hmore, Numeral.chars, List.append_assoc, List.append_assoc, List.append_assoc]
  rw [hmore] at hbody
  rw [← htoken, hchars]
  cases n.isNegative with
  | true =>
    rw [if_pos rfl, List.singleton_append, List.cons_append, tokensOf_cons]
    change tokensOf (.number .minus ['-']) (d :: more ++ rest) = _
    rw [hbody.tokensOf_eq, tokensOf_delimits hcomplete hrest, ← List.reverse_cons]
  | false =>
    obtain ⟨part, hfirst, hrun⟩ := Option.bind_eq_some_iff.1 hbody
    have hrun : Continues part more next := hrun
    have hstep : Scan.step .between (some d) = (.number part [d], []) := startToken_digit hd hfirst
    rw [if_neg Bool.false_ne_true, List.nil_append, List.cons_append, tokensOf_cons, hstep, List.nil_append,
      hrun.tokensOf_eq, tokensOf_delimits hcomplete hrest, List.reverse_cons]

/-! ## Values -/

theorem intercalate_cons {α : Type} (separator : α) (first : List α) (more : List (List α)) :
    [separator].intercalate (first :: more) = first ++ more.flatMap (separator :: ·) := by
  induction more generalizing first with
  | nil => simp [List.intercalate]
  | cons second more ih =>
    have hstep : [separator].intercalate (first :: second :: more) =
        first ++ separator :: [separator].intercalate (second :: more) := by
      simp [List.intercalate]
    rw [hstep, ih, List.flatMap_cons, List.cons_append]

theorem delimits_cons (h : ¬ c.isDigit ∧ c ≠ '.' ∧ c ≠ 'e' ∧ c ≠ 'E') : Delimits (c :: rest) := by
  intro d hd
  obtain rfl : c = d := Option.some.inj hd
  exact h

theorem delimits_nil : Delimits [] := by
  intro c hc
  cases hc

theorem Blanks.delimits_append (h : Blanks chars) (hrest : Delimits rest) : Delimits (chars ++ rest) := by
  cases chars with
  | nil => exact hrest
  | cons c chars =>
    refine delimits_cons ?_
    obtain rfl | rfl | rfl | rfl := h c List.mem_cons_self
    all_goals decide

theorem tokensOf_intercalate {ι : Type} {parts : List ι} {f : ι → List Char} {g : ι → List Token}
    (h : ∀ p ∈ parts, ∀ {rest}, Delimits rest → tokensOf .between (f p ++ rest) = g p ++ tokensOf .between rest)
    (hrest : Delimits rest) : tokensOf .between ([','].intercalate (parts.map f) ++ rest) =
      [.comma].intercalate (parts.map g) ++ tokensOf .between rest := by
  have hmore {parts : List ι}
      (h : ∀ p ∈ parts, ∀ {rest}, Delimits rest → tokensOf .between (f p ++ rest) = g p ++ tokensOf .between rest) :
      Delimits ((parts.map f).flatMap (',' :: ·) ++ rest) ∧
        tokensOf .between ((parts.map f).flatMap (',' :: ·) ++ rest) =
          (parts.map g).flatMap (.comma :: ·) ++ tokensOf .between rest := by
    induction parts with
    | nil => exact ⟨hrest, rfl⟩
    | cons p parts ih =>
      obtain ⟨hp, hparts⟩ := List.forall_mem_cons.1 h
      obtain ⟨hdelimits, htokens⟩ := ih hparts
      refine ⟨delimits_cons (by decide), ?_⟩
      rw [List.map_cons, List.map_cons, List.flatMap_cons, List.flatMap_cons, List.append_assoc, List.cons_append,
        tokensOf_cons]
      change .comma :: tokensOf .between (f p ++ _) = _
      rw [hp hdelimits, htokens, List.append_assoc]
      rfl
  cases parts with
  | nil => rfl
  | cons p parts =>
    obtain ⟨hp, hparts⟩ := List.forall_mem_cons.1 h
    obtain ⟨hdelimits, htokens⟩ := hmore hparts
    rw [List.map_cons, List.map_cons, intercalate_cons, intercalate_cons, List.append_assoc, hp hdelimits, htokens,
      List.append_assoc]

theorem SpellsKey.tokensOf_append {s : String} (h : SpellsKey chars s) :
    tokensOf .between (chars ++ rest) = .ofText s :: tokensOf .between rest := by
  obtain ⟨hbefore, hafter, htext⟩ := h
  rw [List.append_assoc, List.append_assoc, tokensOf_blanks hbefore, tokensOf_text htext, tokensOf_blanks hafter]

theorem tokensOf_array {blanks : List Char} {parts : List (List Char × Value)} (hblanks : Blanks blanks)
    (h : ∀ p ∈ parts, ∀ {rest}, Delimits rest →
      tokensOf .between (p.1 ++ rest) = p.2.tokens ++ tokensOf .between rest) (rest : List Char) :
    tokensOf .between ('[' :: blanks ++ [','].intercalate (parts.map (·.1)) ++ [']'] ++ rest) =
      (Value.array (parts.map (·.2))).tokens ++ tokensOf .between rest := by
  rw [List.append_assoc, List.append_assoc, List.cons_append, tokensOf_cons, Value.tokens, Value.itemTokens_eq,
    List.map_map]
  change .leftBracket :: tokensOf .between (blanks ++ (_ ++ (']' :: rest))) = _
  rw [tokensOf_blanks hblanks, tokensOf_intercalate h (delimits_cons (by decide)), tokensOf_cons, List.append_assoc]
  rfl

variable {v : Value}

/-- **A spelling is scanned as the tokens of its value**, whatever follows, if it does not continue a number. -/
theorem Spells.tokensOf_append (h : Spells chars v) (hrest : Delimits rest) :
    tokensOf .between (chars ++ rest) = v.tokens ++ tokensOf .between rest := by
  induction h generalizing rest with
  | literal l => exact tokensOf_word l
  | number n => exact tokensOf_number n hrest
  | text h => exact tokensOf_text h
  | array blanks parts hblanks _ ih => exact tokensOf_array hblanks ih rest
  | @object blanks members hblanks hkey _ ih =>
    have hmembers : ∀ m ∈ members, ∀ {rest}, Delimits rest → tokensOf .between (m.chars ++ rest) =
        (.ofText m.key :: .colon :: m.value.tokens) ++ tokensOf .between rest := by
      intro m hm rest hrest
      rw [Member.chars, List.append_assoc, (hkey m hm).tokensOf_append, List.cons_append, tokensOf_cons]
      change .ofText m.key :: .colon :: tokensOf .between (m.valueChars ++ rest) = _
      rw [ih m hm hrest]
      rfl
    rw [List.append_assoc, List.append_assoc, List.cons_append, tokensOf_cons, Value.tokens, Value.fieldTokens_eq,
      List.map_map]
    change .leftBrace :: tokensOf .between (blanks ++ (_ ++ ('\x7d' :: rest))) = _
    rw [tokensOf_blanks hblanks, tokensOf_intercalate hmembers (delimits_cons (by decide)), tokensOf_cons,
      List.append_assoc]
    rfl
  | padded hbefore hafter _ ih =>
    rw [List.append_assoc, List.append_assoc, tokensOf_blanks hbefore, ih (hafter.delimits_append hrest),
      tokensOf_blanks hafter]

/-- An array is delimited by itself. -/
theorem Spells.tokensOf_array_append {items : List Value} (h : Spells chars (.array items)) (rest : List Char) :
    tokensOf .between (chars ++ rest) = (Value.array items).tokens ++ tokensOf .between rest := by
  generalize hv : Value.array items = v at h
  induction h generalizing rest with
  | array blanks parts hblanks hparts =>
    exact tokensOf_array hblanks (fun p hp _ hrest => (hparts p hp).tokensOf_append hrest) rest
  | padded hbefore hafter _ ih =>
    rw [List.append_assoc, List.append_assoc, tokensOf_blanks hbefore, ih _ hv, tokensOf_blanks hafter]
  | literal | number | text | object => cases hv

theorem Spells.scan_eq (h : Spells chars v) : Token.scan (chars.map some) = v.tokens ++ [.ending] := by
  have htokens := h.tokensOf_append delimits_nil
  rw [List.append_nil] at htokens
  exact htokens

end Retrieval.Json
