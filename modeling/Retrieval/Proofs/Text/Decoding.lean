import Retrieval.Proofs.Text.ByteOrder

/-!
# Reading back the bytes of texts

* `foldl_readByte_utf8EncodeChar` : the bytes of a character are read as this character;
* `symbols_utf8`, `decode_utf8` : the bytes of a text are read as this text, in both ways.
-/

namespace Retrieval.Text

open String (utf8EncodeChar)

variable {bits k m : Nat} {lo hi b : UInt8} {done : List Symbol}

/-! ## Single bytes -/

theorem readByte_one (h : m < 0x80) : readByte (none, done) (.ofNat m) = (none, some (Char.ofNat m) :: done) := by
  have hmod : m % 256 = m := Nat.mod_eq_of_lt (by omega)
  have hlt : UInt8.ofNat m < 0x80 := by
    rw [UInt8.lt_iff_toNat_lt, UInt8.toNat_ofNat', hmod]
    exact h
  rw [readByte, startByte, if_pos hlt, UInt8.toNat_ofNat', hmod]

theorem startByte_of_shape {left : Nat} (h : sequenceShape? b = some (lo, hi, left)) :
    startByte b done = (some ⟨leadBits b left, lo, hi, left⟩, done) := by
  have hlt : ¬ b < 0x80 := by
    have hnone : ∀ n < 0x80, sequenceShape? (.ofNat n) = none := by decide
    intro hlt
    rw [← UInt8.ofNat_toNat (x := b), hnone b.toNat hlt] at h
    cases h
  rw [startByte, if_neg hlt, h]

theorem readByte_two (h : 2 ≤ k) (h' : k < 32) :
    readByte (none, done) (.ofNat (k + 0xC0)) = (some ⟨k, 0x80, 0xBF, 0⟩, done) := by
  have hshape : ∀ k < 32, 2 ≤ k → sequenceShape? (.ofNat (k + 0xC0)) = some (0x80, 0xBF, 0) := by decide
  have hbits : ∀ k < 32, leadBits (.ofNat (k + 0xC0)) 0 = k := by decide
  rw [readByte, startByte_of_shape (hshape k h' h), hbits k h']

/-- A shorter code and a surrogate are kept out by the bounds of the second byte. -/
theorem readByte_three (h : k < 16) : readByte (none, done) (.ofNat (k + 0xE0)) =
    (some ⟨k, if k = 0 then 0xA0 else 0x80, if k = 13 then 0x9F else 0xBF, 1⟩, done) := by
  have hshape : ∀ k < 16, sequenceShape? (.ofNat (k + 0xE0)) =
      some (if k = 0 then 0xA0 else 0x80, if k = 13 then 0x9F else 0xBF, 1) := by decide
  have hbits : ∀ k < 16, leadBits (.ofNat (k + 0xE0)) 1 = k := by decide
  rw [readByte, startByte_of_shape (hshape k h), hbits k h]

/-- So are a shorter code and a number beyond the last character. -/
theorem readByte_four (h : k < 5) : readByte (none, done) (.ofNat (k + 0xF0)) =
    (some ⟨k, if k = 0 then 0x90 else 0x80, if k = 4 then 0x8F else 0xBF, 2⟩, done) := by
  have hshape : ∀ k < 5, sequenceShape? (.ofNat (k + 0xF0)) =
      some (if k = 0 then 0x90 else 0x80, if k = 4 then 0x8F else 0xBF, 2) := by decide
  have hbits : ∀ k < 5, leadBits (.ofNat (k + 0xF0)) 2 = k := by decide
  rw [readByte, startByte_of_shape (hshape k h), hbits k h]

theorem bounds_of_lt (hm : m < 64) : (0x80 : UInt8).toNat ≤ m + 0x80 ∧ m + 0x80 ≤ (0xBF : UInt8).toNat := by
  simp only [UInt8.reduceToNat]
  omega

theorem continues_ofNat (hm : m < 64) (hlo : lo.toNat ≤ m + 0x80) (hhi : m + 0x80 ≤ hi.toNat) :
    continues lo hi (.ofNat (m + 0x80)) = true ∧ (UInt8.ofNat (m + 0x80)).toNat % 64 = m := by
  have htoNat : (UInt8.ofNat (m + 0x80)).toNat = m + 0x80 := by
    rw [UInt8.toNat_ofNat']
    omega
  rw [continues, Bool.and_eq_true, decide_eq_true_iff, decide_eq_true_iff, UInt8.le_iff_toNat_le, UInt8.le_iff_toNat_le,
    htoNat]
  exact ⟨⟨hlo, hhi⟩, by omega⟩

theorem readByte_next {left : Nat} (hm : m < 64) (hlo : lo.toNat ≤ m + 0x80) (hhi : m + 0x80 ≤ hi.toNat) :
    readByte (some ⟨bits, lo, hi, left + 1⟩, done) (.ofNat (m + 0x80)) =
      (some ⟨bits * 64 + m, 0x80, 0xBF, left⟩, done) := by
  obtain ⟨hcontinues, hbits⟩ := continues_ofNat hm hlo hhi
  rw [readByte, if_pos hcontinues, hbits]

theorem readByte_last (hm : m < 64) : readByte (some ⟨bits, 0x80, 0xBF, 0⟩, done) (.ofNat (m + 0x80)) =
    (none, some (Char.ofNat (bits * 64 + m)) :: done) := by
  obtain ⟨hcontinues, hbits⟩ := continues_ofNat hm (bounds_of_lt hm).1 (bounds_of_lt hm).2
  rw [readByte, if_pos hcontinues, hbits]

/-! ## Characters and texts -/

theorem foldl_readByte_utf8EncodeChar (c : Char) (done : List Symbol) :
    (utf8EncodeChar c).foldl readByte (none, done) = (none, some c :: done) := by
  have hlt : c.val.toNat < 0x110000 := CodeSet.toNat_lt c
  have hvalid : c.val.toNat < 0xD800 ∨ 0xDFFF < c.val.toNat := CodeSet.not_surrogate c
  have hchar : Char.ofNat c.val.toNat = c := Char.ofNat_toNat c
  unfold utf8EncodeChar
  generalize c.val.toNat = n at *
  have hlast : n % 64 < 64 := Nat.mod_lt n (by decide)
  dsimp only
  split_ifs with h1 h2 h3
  · rw [List.foldl_cons, List.foldl_nil, readByte_one (by omega), hchar]
  · have hbits : n / 64 % 32 * 64 + n % 64 = n := by omega
    rw [List.foldl_cons, List.foldl_cons, List.foldl_nil, readByte_two (by omega) (by omega), readByte_last hlast,
      hbits, hchar]
  · have hbits : (n / 4096 % 16 * 64 + n / 64 % 64) * 64 + n % 64 = n := by omega
    rw [List.foldl_cons, List.foldl_cons, List.foldl_cons, List.foldl_nil, readByte_three (by omega),
      readByte_next (Nat.mod_lt _ (by decide)), readByte_last hlast, hbits, hchar]
    all_goals
      split_ifs
      all_goals
        simp only [UInt8.reduceToNat]
        omega
  · have hbits : ((n / 262144 % 8 * 64 + n / 4096 % 64) * 64 + n / 64 % 64) * 64 + n % 64 = n := by omega
    have hthird := bounds_of_lt (Nat.mod_lt (n / 64) (by decide))
    rw [List.foldl_cons, List.foldl_cons, List.foldl_cons, List.foldl_cons, List.foldl_nil, readByte_four (by omega),
      readByte_next (Nat.mod_lt _ (by decide)), readByte_next (Nat.mod_lt _ (by decide)) hthird.1 hthird.2,
      readByte_last hlast, hbits, hchar]
    all_goals
      split_ifs
      all_goals
        simp only [UInt8.reduceToNat]
        omega

theorem symbols_utf8 (s : String) : symbols (utf8 s) = symbolsOf s := by
  have hfold (chars : List Char) (done : List Symbol) :
      (chars.flatMap utf8EncodeChar).foldl readByte (none, done) = (none, (chars.map some).reverse ++ done) := by
    induction chars generalizing done with
    | nil => rfl
    | cons c chars ih =>
      rw [List.flatMap_cons, List.foldl_append, foldl_readByte_utf8EncodeChar, ih]
      simp
  rw [symbols, utf8_eq_flatMap, hfold]
  simp [symbolsOf]

theorem decode_utf8 (s : String) : decode (utf8 s) = some s := by
  have hbytes : (⟨(utf8 s).toArray⟩ : ByteArray) = s.toByteArray := by
    rw [utf8, ByteArray.toList, toList_loop_eq, String.toUTF8_eq_toByteArray]
    simp
  rw [decode, hbytes, String.fromUTF8?, dif_pos s.isValidUTF8]
  rfl

end Retrieval.Text
