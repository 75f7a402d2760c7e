import Mathlib.Data.String.Basic
import Retrieval.Proofs.Text.CodeTable
import Retrieval.Text.Bytes

/-!
# The order of bytes

Texts are ordered by their characters. Their bytes are in the same order, since a greater character has a longer code
with a greater first byte, or one of the same length that is greater in the first byte that differs.

* `utf8_eq_flatMap` : the bytes of a text are those of its characters;
* `mem_utf8_iff` : a byte below 128 stands for its character alone;
* `utf8EncodeChar_append_lt` : the code of a greater character is greater, whatever follows;
* `utf8_lt_iff`, `utf8_injective` : the two orders of texts, and that their bytes tell them apart.
-/

namespace Retrieval.Text

open String (utf8EncodeChar)

/-! ## Bytes of characters -/

theorem toList_loop_eq (bytes : ByteArray) (i : Nat) (done : List UInt8) :
    ByteArray.toList.loop bytes i done = done.reverse ++ bytes.data.toList.drop i := by
  fun_induction ByteArray.toList.loop bytes i done with
  | case1 i done hlt ih =>
    have hlength : i < bytes.data.toList.length := hlt
    have hget : bytes.get! i = bytes.data.toList[i] := getElem!_pos bytes.data i hlt
    rw [ih, List.drop_eq_getElem_cons hlength, hget]
    simp
  | case2 i done hge =>
    have hlength : bytes.data.toList.length ≤ i := Nat.le_of_not_lt hge
    rw [List.drop_eq_nil_of_le hlength, List.append_nil]

theorem utf8_eq_flatMap (s : String) : utf8 s = s.toList.flatMap utf8EncodeChar := by
  rw [utf8, ByteArray.toList, toList_loop_eq, String.toUTF8_eq_toByteArray, ← String.utf8Encode_toList,
    List.utf8Encode, List.toList_data_toByteArray]
  rfl

theorem mem_utf8EncodeChar_iff {b : UInt8} (hb : b.toNat < 0x80) {c : Char} :
    b ∈ utf8EncodeChar c ↔ b.toNat = c.toNat := by
  have hc : c.val.toNat < 0x110000 := CodeSet.toNat_lt c
  show _ ↔ b.toNat = c.val.toNat
  unfold utf8EncodeChar
  generalize c.val.toNat = n at *
  dsimp only
  split_ifs
  -- every byte of a longer code is 128 or more
  all_goals
    simp only [List.mem_cons, List.not_mem_nil, or_false, ← UInt8.toNat_inj, UInt8.toNat_ofNat', Nat.reducePow]
    omega

theorem mem_utf8_iff {b : UInt8} (hb : b.toNat < 0x80) {s : String} :
    b ∈ utf8 s ↔ ∃ c ∈ s.toList, b.toNat = c.toNat := by
  simp only [utf8_eq_flatMap, List.mem_flatMap, mem_utf8EncodeChar_iff hb]

/-! ## One character -/

/-- A smaller number has a smaller first digit, or the same one and smaller digits behind it. -/
theorem digits_lt {m n : Nat} (h : m < n) (hn : n < 0x110000) :
    m / 262144 % 8 < n / 262144 % 8 ∨ m / 262144 % 8 = n / 262144 % 8 ∧
      (m / 4096 % 64 < n / 4096 % 64 ∨ m / 4096 % 64 = n / 4096 % 64 ∧
        (m / 64 % 64 < n / 64 % 64 ∨ m / 64 % 64 = n / 64 % 64 ∧ m % 64 < n % 64)) := by
  have hdigits (k : Nat) : k = 262144 * (k / 262144) + 4096 * (k / 4096 % 64) + 64 * (k / 64 % 64) + k % 64 := by
    omega
  have hbounds (k : Nat) : k / 4096 % 64 < 64 ∧ k / 64 % 64 < 64 ∧ k % 64 < 64 := by omega
  have hm := hdigits m
  have hm' := hbounds m
  have hn' := hdigits n
  have hn'' := hbounds n
  rw [Nat.mod_eq_of_lt (by omega : m / 262144 < 8), Nat.mod_eq_of_lt (by omega : n / 262144 < 8)]
  generalize m / 262144 = a, m / 4096 % 64 = b, m / 64 % 64 = c, m % 64 = d at *
  generalize n / 262144 = e, n / 4096 % 64 = f, n / 64 % 64 = g, n % 64 = i at *
  omega

/-- A greater character has a greater code: the first byte that differs is greater, and there is one. -/
theorem utf8EncodeChar_append_lt {c d : Char} (h : c < d) (x y : List UInt8) :
    utf8EncodeChar c ++ x < utf8EncodeChar d ++ y := by
  have hlt : c.val.toNat < d.val.toNat := h
  have hd : d.val.toNat < 0x110000 := CodeSet.toNat_lt d
  have hdigits := digits_lt hlt hd
  -- no byte of a code overflows
  have hinner (k : Nat) : (k % 64 + 0x80) % 256 = k % 64 + 0x80 := by omega
  have hfirst (k : Nat) : (k % 8 + 0xF0) % 256 = k % 8 + 0xF0 := by omega
  unfold utf8EncodeChar
  generalize c.val.toNat = m at hlt hdigits ⊢
  generalize d.val.toNat = n at hlt hd hdigits ⊢
  dsimp only
  split_ifs
  -- a code of another length has another first byte
  all_goals try omega
  all_goals
    simp only [List.cons_append, List.nil_append, List.cons_lt_cons_iff, UInt8.lt_iff_toNat_lt, ← UInt8.toNat_inj,
      UInt8.toNat_ofNat', Nat.reducePow, hinner, hfirst]
    omega

/-! ## Texts -/

theorem flatMap_utf8EncodeChar_lt {s t : List Char} (h : s < t) :
    s.flatMap utf8EncodeChar < t.flatMap utf8EncodeChar := by
  induction h with
  | @nil d t =>
    obtain ⟨byte, rest, hcode⟩ := List.exists_cons_of_ne_nil (fun h => String.utf8EncodeChar_ne_nil h)
    rw [List.flatMap_nil, List.flatMap_cons, hcode]
    exact List.Lex.nil
  | rel hlt =>
    rw [List.flatMap_cons, List.flatMap_cons]
    exact utf8EncodeChar_append_lt hlt _ _
  | cons _ ih =>
    rw [List.flatMap_cons, List.flatMap_cons]
    exact List.append_left_lt ih

theorem utf8_lt_iff {a b : String} : utf8 a < utf8 b ↔ a < b := by
  rw [utf8_eq_flatMap, utf8_eq_flatMap, String.lt_iff]
  constructor
  · intro h
    rcases lt_trichotomy a.toList b.toList with hlt | heq | hgt
    · exact hlt
    · rw [heq] at h
      exact absurd h (List.lt_irrefl _)
    · exact absurd h (List.lt_asymm (flatMap_utf8EncodeChar_lt hgt))
  · exact flatMap_utf8EncodeChar_lt

theorem utf8_injective : Function.Injective utf8 := by
  intro a b h
  rcases lt_trichotomy a b with hlt | heq | hgt
  · rw [← utf8_lt_iff, h] at hlt
    exact absurd hlt (List.lt_irrefl _)
  · exact heq
  · rw [← utf8_lt_iff, h] at hgt
    exact absurd hgt (List.lt_irrefl _)

end Retrieval.Text
