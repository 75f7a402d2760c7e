import Mathlib
import Retrieval.Index.Weight

/-!
# Quotients of counts

The rarity of a term is the logarithm of a quotient of two counts, taken as floating-point numbers of 53 digits. Such a
quotient is finite, and it is one at least, whatever rounding does to it.

* `Binary64.Full` : mantissas that have all of their digits;
* `Binary64.exists_round`, `Binary64.round_exact` : what rounding makes of a mantissa with more digits;
* `Binary64.unpack_pack` : a value in range is represented as it is;
* `Binary64.Has` : a number by its mantissa and its exponent;
* `Binary64.has_toFloat` : a count is represented exactly;
* `Binary64.toFloat_div` : the quotient of a count by one that is not greater.
-/

namespace Retrieval.Binary64

open Float.Model Float.Model.UnpackedFloat

/-! ## Mantissas -/

/-- A mantissa that has all of its 53 digits. -/
def Full (m : Nat) : Prop := 2 ^ 52 ≤ m ∧ m < 2 ^ 53

theorem Full.pos {m : Nat} (h : Full m) : 0 < m := Nat.lt_of_lt_of_le (by decide) h.1

theorem Full.log2_eq {m : Nat} (h : Full m) : m.log2 = 52 := (Nat.log2_eq_iff h.pos.ne').2 h

theorem log2_mul_two_pow {m : Nat} (hm : 0 < m) (k : Nat) : (m * 2 ^ k).log2 = m.log2 + k := by
  obtain ⟨hlow, hhigh⟩ := (Nat.log2_eq_iff hm.ne').1 rfl
  have hne : m * 2 ^ k ≠ 0 := (Nat.mul_pos hm (Nat.two_pow_pos k)).ne'
  refine (Nat.log2_eq_iff hne).2 ⟨?_, ?_⟩
  · rw [Nat.pow_add]
    exact Nat.mul_le_mul_right _ hlow
  · rw [show m.log2 + k + 1 = m.log2 + 1 + k by omega, Nat.pow_add]
    exact Nat.mul_lt_mul_of_pos_right hhigh (Nat.two_pow_pos k)

theorem Full.log2_mul {m : Nat} (h : Full m) (k : Nat) : (m * 2 ^ k).log2 = 52 + k := by
  rw [log2_mul_two_pow h.pos, h.log2_eq]

theorem mantissa_ofMantissaAndAccuracy (m : Nat) (a : Accuracy) :
    (ExtendedMantissa.ofMantissaAndAccuracy m a).mantissa = m := by
  cases a with
  | exact => rfl
  | inexact order => cases order <;> rfl

theorem mantissa_shiftRight (em : ExtendedMantissa) (k : Nat) : (em >>> k).mantissa = em.mantissa / 2 ^ k := by
  induction k with
  | zero => exact (Nat.div_one _).symm
  | succ k ih =>
    change (em >>> k).mantissa / 2 = em.mantissa / 2 ^ (k + 1)
    rw [ih, Nat.div_div_eq_div_mul, Nat.pow_succ]

theorem shiftRight_exact (m k : Nat) :
    (⟨m * 2 ^ k, false, false⟩ : ExtendedMantissa) >>> k = ⟨m, false, false⟩ := by
  induction k generalizing m with
  | zero =>
    change (⟨m * 1, false, false⟩ : ExtendedMantissa) = _
    rw [Nat.mul_one]
  | succ k ih =>
    have hsplit : m * 2 ^ (k + 1) = m * 2 * 2 ^ k := by rw [Nat.pow_succ', Nat.mul_assoc]
    change ((⟨m * 2 ^ (k + 1), false, false⟩ : ExtendedMantissa) >>> k).shiftRightOne = _
    rw [hsplit, ih]
    simp [ExtendedMantissa.shiftRightOne]

theorem mantissa_le_rounded (em : ExtendedMantissa) :
    em.mantissa ≤ em.roundedMantissa ∧ em.roundedMantissa ≤ em.mantissa + 1 := by
  obtain ⟨m, round, sticky⟩ := em
  cases round <;> cases sticky <;>
    simp only [ExtendedMantissa.roundedMantissa, ExtendedMantissa.accuracy, Accuracy.roundToNearestEven] <;> omega

def leading (m : Nat) (a : Accuracy) : ExtendedMantissa :=
  ExtendedMantissa.ofMantissaAndAccuracy m a >>> (m.log2 - 52)

theorem full_leading {m : Nat} (a : Accuracy) (hm : 52 ≤ m.log2) : Full (leading m a).mantissa := by
  have hne : m ≠ 0 := by
    rintro rfl
    simp at hm
  obtain ⟨hlow, hhigh⟩ := (Nat.log2_eq_iff hne).1 rfl
  have hpos : 0 < 2 ^ (m.log2 - 52) := Nat.two_pow_pos _
  rw [leading, mantissa_shiftRight, mantissa_ofMantissaAndAccuracy]
  constructor
  · rw [Nat.le_div_iff_mul_le hpos, ← Nat.pow_add]
    exact Nat.le_trans (Nat.pow_le_pow_right (by decide) (by omega)) hlow
  · rw [Nat.div_lt_iff_lt_mul hpos, ← Nat.pow_add]
    exact Nat.lt_of_lt_of_le hhigh (Nat.pow_le_pow_right (by decide) (by omega))

theorem leading_exact {m : Nat} (hm : Full m) (k : Nat) : leading (m * 2 ^ k) .exact = ⟨m, false, false⟩ := by
  rw [leading, hm.log2_mul, Nat.add_sub_cancel_left]
  exact shiftRight_exact m k

/-! ## Rounding -/

theorem targetExponent_eq {m : Nat} {e : Int} (he : -1074 ≤ e + (m.log2 - 52)) :
    Format.binary64.targetExponent (totalExponent m e) = e + (m.log2 - 52) := by
  simp only [Format.targetExponent, totalExponent, Format.mantissaBits, Format.minExponent]
  omega

theorem shift_eq {m : Nat} {e : Int} (a : Accuracy) (hm : 52 ≤ m.log2) (he : -1074 ≤ e + (m.log2 - 52)) :
    shiftToTargetExponent .binary64 m e a = (leading m a, e + (m.log2 - 52 : Nat)) := by
  have hshift : (e + (m.log2 - 52 : Int) - e).toNat = m.log2 - 52 := by omega
  rw [shiftToTargetExponent, targetExponent_eq he, shiftToExponent, hshift, leading]

theorem shift_exact {m : Nat} {e : Int} (hm : Full m) (k : Nat) (he : -1074 ≤ e) :
    shiftToTargetExponent .binary64 (m * 2 ^ k) e .exact = (⟨m, false, false⟩, e + k) := by
  have hlog := hm.log2_mul k
  rw [shift_eq .exact (by omega) (by omega), leading_exact hm, hlog, Nat.add_sub_cancel_left]

theorem shift_full {m : Nat} {e : Int} (hm : Full m) (he : -1074 ≤ e) :
    shiftToTargetExponent .binary64 m e .exact = (⟨m, false, false⟩, e) := by
  have h := shift_exact hm 0 he
  rwa [Nat.pow_zero, Nat.mul_one, Int.natCast_zero, Int.add_zero] at h

/-- What is rounded has 53 digits afterwards. The exponent grows by the number of digits that are dropped, and by one
more if a digit is carried over to the front. -/
theorem exists_round {m : Nat} {e : Int} (a : Accuracy) (hm : 52 ≤ m.log2) (he : -1074 ≤ e + (m.log2 - 52)) :
    ∃ m' e', ∃ h : Full m', roundWithAccuracy .binary64 .positive m e a = .finite .positive m' e' h.pos ∧
      e + (m.log2 - 52) ≤ e' ∧ e' ≤ e + (m.log2 - 51) := by
  obtain ⟨hlow, hhigh⟩ := full_leading a hm
  obtain ⟨hle, hge⟩ := mantissa_le_rounded (leading m a)
  have hexponent : -1074 ≤ e + (m.log2 - 52 : Nat) := by omega
  have hround : roundWithAccuracy .binary64 .positive m e a =
      let second := shiftToTargetExponent .binary64 (leading m a).roundedMantissa (e + (m.log2 - 52 : Nat)) .exact
      if h : second.1.mantissa = 0 then .zero .positive
      else .finite .positive second.1.mantissa second.2 (Nat.pos_of_ne_zero h) := by
    rw [roundWithAccuracy, shift_eq a hm he]
  by_cases hcarry : (leading m a).roundedMantissa = 2 ^ 53
  · have hone : Full (2 ^ 52) := ⟨Nat.le_refl _, by decide⟩
    have hshift := shift_exact hone 1 hexponent
    rw [← Nat.pow_add, ← hcarry] at hshift
    rw [hshift] at hround
    exact ⟨2 ^ 52, _, hone, hround, by omega, by omega⟩
  · have hfull : Full (leading m a).roundedMantissa := ⟨by omega, by omega⟩
    rw [shift_full hfull hexponent] at hround
    dsimp only at hround
    rw [dif_neg hfull.pos.ne'] at hround
    exact ⟨_, _, hfull, hround, by omega, by omega⟩

/-- A mantissa of 53 digits with zeros behind it is not changed by rounding. -/
theorem round_exact {m : Nat} {e : Int} (hm : Full m) (k : Nat) (he : -1074 ≤ e) :
    roundWithAccuracy .binary64 .positive (m * 2 ^ k) e .exact = .finite .positive m (e + k) hm.pos := by
  have hrounded : (⟨m, false, false⟩ : ExtendedMantissa).roundedMantissa = m := rfl
  rw [roundWithAccuracy, shift_exact hm k he]
  dsimp only
  rw [hrounded, shift_full hm (by omega)]
  exact dif_neg hm.pos.ne'

/-! ## Packing -/

theorem toNat_one_append {m : Nat} (hm : Full m) : (1#1 ++ BitVec.ofNat 52 m).toNat = m := by
  obtain ⟨hlow, hhigh⟩ := hm
  rw [BitVec.toNat_append, ← Nat.shiftLeft_add_eq_or_of_lt (BitVec.ofNat 52 m).isLt, BitVec.toNat_ofNat,
    BitVec.toNat_ofNat, Nat.shiftLeft_eq]
  omega

theorem unpackSign_positive (x : BitVec 11) (y : BitVec 52) :
    unpackSign (packComponents .binary64 .positive x y) = 0#1 := by
  refine BitVec.eq_of_getLsbD_eq fun i hi => ?_
  obtain rfl : i = 0 := by omega
  simp only [unpackSign, packComponents, BitVec.getLsbD_cast, BitVec.extractLsb, BitVec.getLsbD_extractLsb']
  change (decide (0 < 1) && (0#1 ++ x ++ y).getLsbD 63) = _
  rw [BitVec.getLsbD_append, BitVec.getLsbD_append]
  rfl

theorem unpack_pack {m : Nat} {e : Int} (hm : Full m) (hlow : -1074 ≤ e) (hhigh : e ≤ 971) :
    (Float.Model.pack (.finite .positive m e hm.pos)).unpack = .finite .positive m e hm.pos := by
  have hlog : m.log2 = 52 := hm.log2_eq
  have hbiased : (e + Format.binary64.exponentBias + Format.binary64.mantissaBitsWithoutImplicit).toNat =
      (e + 1075).toNat := by
    change (e + (1023 : Nat) + (52 : Nat)).toNat = (e + 1075).toNat
    omega
  have htoNat : (BitVec.ofNat 11 (e + 1075).toNat).toNat = (e + 1075).toNat := by
    rw [BitVec.toNat_ofNat]
    omega
  -- the exponent is neither that of infinity nor that of zero
  have hfinite : BitVec.ofNat 11 (e + 1075).toNat ≠ -1#11 := by
    intro h
    have h := congrArg BitVec.toNat h
    rw [htoNat] at h
    change (e + 1075).toNat = 2047 at h
    omega
  have hnormal : BitVec.ofNat 11 (e + 1075).toNat ≠ 0#11 := by
    intro h
    have h := congrArg BitVec.toNat h
    rw [htoNat] at h
    change (e + 1075).toNat = 0 at h
    omega
  have hpack : UnpackedFloat.pack .binary64 (.finite .positive m e hm.pos) =
      packComponents .binary64 .positive (BitVec.ofNat 11 (e + 1075).toNat) (BitVec.ofNat 52 m) := by
    have hinfinite : ¬ 2 ^ 11 ≤ (e + 1075).toNat + 1 := by omega
    have hdigits : 52 + 1 = Format.binary64.mantissaBits := rfl
    simp only [UnpackedFloat.pack, hlog, hbiased]
    rw [if_neg hinfinite, if_pos hdigits]
  change UnpackedFloat.unpack .binary64 (UnpackedFloat.pack .binary64 (.finite .positive m e hm.pos)) = _
  rw [hpack, UnpackedFloat.unpack]
  simp only [unpackExponent_packComponents, unpackMantissa_packComponents, unpackSign_positive]
  rw [if_neg hfinite, if_neg hnormal]
  simp only [UnpackedFloat.finite.injEq]
  refine ⟨rfl, toNat_one_append hm, ?_⟩
  rw [htoNat]
  change ((e + 1075).toNat : Int) - ((1023 : Nat) + (52 : Nat)) = e
  omega

/-! ## Counts -/

/-- A floating-point number is the value `m * 2 ^ e` with 53 digits. -/
def Has (x : Float) (m : Nat) (e : Int) : Prop :=
  ∃ h : Full m, x.toModel.unpack = .finite .positive m e h.pos

theorem log2_le {n : Nat} (hpos : 0 < n) (hn : n < 2 ^ 53) : n.log2 ≤ 52 := by
  have := (Nat.log2_lt hpos.ne').2 hn
  omega

theorem full_shiftLeft {n : Nat} (hpos : 0 < n) (hn : n < 2 ^ 53) : Full (n * 2 ^ (52 - n.log2)) := by
  have hlog := log2_le hpos hn
  obtain ⟨hlow, hhigh⟩ := (Nat.log2_eq_iff hpos.ne').1 rfl
  constructor
  · calc 2 ^ 52 = 2 ^ n.log2 * 2 ^ (52 - n.log2) := by rw [← Nat.pow_add]; congr 1; omega
      _ ≤ n * 2 ^ (52 - n.log2) := Nat.mul_le_mul_right _ hlow
  · calc n * 2 ^ (52 - n.log2) < 2 ^ (n.log2 + 1) * 2 ^ (52 - n.log2) :=
        Nat.mul_lt_mul_of_pos_right hhigh (Nat.two_pow_pos _)
      _ = 2 ^ 53 := by rw [← Nat.pow_add]; congr 1; omega

theorem has_toFloat_uInt64 {n : Nat} (hpos : 0 < n) (hn : n < 2 ^ 53) :
    Has n.toUInt64.toFloat (n * 2 ^ (52 - n.log2)) (n.log2 - 52) := by
  have hfull := full_shiftLeft hpos hn
  refine ⟨hfull, ?_⟩
  have hlog := log2_le hpos hn
  have hword : n.toUInt64.toNat = n := by
    rw [Nat.toUInt64, UInt64.toNat_ofNat']
    omega
  have hshift : ((0 : Int) - (0 + (n.log2 - 52))).toNat = 52 - n.log2 := by omega
  have hround : UnpackedFloat.ofUInt64 .binary64 n.toUInt64 =
      .finite .positive (n * 2 ^ (52 - n.log2)) (n.log2 - 52) hfull.pos := by
    have hsign : compare (n : Int) 0 = .gt := by
      rw [Int.compare_eq_gt]
      omega
    rw [UnpackedFloat.ofUInt64, hword, UnpackedFloat.ofNat, UnpackedFloat.ofInt, UnpackedFloat.normalize, hsign]
    dsimp only
    rw [UnpackedFloat.round, Int.toNat_natCast, targetExponent_eq (by omega), decreaseExponent, hshift,
      Nat.shiftLeft_eq]
    have h := round_exact (e := 0 - (52 - n.log2 : Nat)) hfull 0 (by omega)
    rw [Nat.pow_zero, Nat.mul_one] at h
    dsimp only
    rw [h]
    simp only [UnpackedFloat.finite.injEq, true_and]
    omega
  change (Float.Model.pack (UnpackedFloat.ofUInt64 .binary64 n.toUInt64)).unpack = _
  rw [hround]
  exact unpack_pack hfull (by omega) (by omega)

/-- The first power of ten is one, with 52 zeros behind the first digit. -/
theorem has_one : Has Float.exactlyRepresentablePowersOfTen[0] (2 ^ 52) (-52) :=
  ⟨⟨by decide, by decide⟩, rfl⟩

theorem Has.mul_one {x one : Float} {m : Nat} {e : Int} (hx : Has x m e) (hone : Has one (2 ^ 52) (-52))
    (hlow : -1022 ≤ e) (hhigh : e ≤ 971) : Has (x * one) m e := by
  obtain ⟨hfull, hx⟩ := hx
  obtain ⟨_, hone⟩ := hone
  refine ⟨hfull, ?_⟩
  change (Float.Model.pack (UnpackedFloat.mul .binary64 x.toModel.unpack one.toModel.unpack)).unpack = _
  have hround := round_exact (e := e + -52) hfull 52 (by omega)
  have hexponent : e + -52 + (52 : Nat) = e := by omega
  rw [hx, hone, UnpackedFloat.mul]
  change (Float.Model.pack (roundWithAccuracy .binary64 .positive (m * 2 ^ 52) (e + -52) .exact)).unpack = _
  rw [hround, unpack_pack hfull (by omega) (by omega)]
  simp only [hexponent]

/-- **A count below `2 ^ 53` is represented exactly.** -/
theorem has_toFloat {n : Nat} (hpos : 0 < n) (hn : n < 2 ^ 53) :
    Has n.toFloat (n * 2 ^ (52 - n.log2)) (n.log2 - 52) := by
  have hlog := log2_le hpos hn
  have hpowers : n < 2 ^ 53 ∧ 0 ≤ 22 := ⟨hn, Nat.zero_le _⟩
  have hproduct : n.toFloat = n.toUInt64.toFloat * Float.exactlyRepresentablePowersOfTen[0] := by
    change Float.ofScientific n false 0 = _
    rw [Float.ofScientific, dif_pos hpowers]
    rfl
  rw [hproduct]
  exact (has_toFloat_uInt64 hpos hn).mul_one has_one (by omega) (by omega)

/-! ## Quotients -/

/-- The digits of a quotient: with 53 digits on both sides there are 53 or 54 of them, and 54 if the dividend is not
less. -/
theorem log2_quotient {m₁ m₂ : Nat} (h₁ : Full m₁) (h₂ : Full m₂) :
    52 ≤ (m₁ * 2 ^ 53 / m₂).log2 ∧ (m₁ * 2 ^ 53 / m₂).log2 ≤ 53 ∧
      (m₂ ≤ m₁ → 53 ≤ (m₁ * 2 ^ 53 / m₂).log2) := by
  obtain ⟨hlow₁, hhigh₁⟩ := h₁
  obtain ⟨hlow₂, hhigh₂⟩ := h₂
  have hpos : 0 < m₂ := Nat.lt_of_lt_of_le (by decide) hlow₂
  have hlow : 2 ^ 52 ≤ m₁ * 2 ^ 53 / m₂ := by
    rw [Nat.le_div_iff_mul_le hpos]
    omega
  have hhigh : m₁ * 2 ^ 53 / m₂ < 2 ^ 54 := by
    rw [Nat.div_lt_iff_lt_mul hpos]
    omega
  have hne : m₁ * 2 ^ 53 / m₂ ≠ 0 := by omega
  refine ⟨(Nat.le_log2 hne).2 hlow, Nat.le_of_lt_succ ((Nat.log2_lt hne).2 hhigh), fun hle => ?_⟩
  rw [Nat.le_log2 hne, Nat.le_div_iff_mul_le hpos]
  omega

theorem divCore_eq {m₁ m₂ : Nat} {e₁ e₂ : Int} (h₁ : Full m₁) (h₂ : Full m₂) (hlow : 0 ≤ e₁ - e₂) :
    divCore .binary64 m₁ e₁ m₂ e₂ =
      (m₁ * 2 ^ 53 / m₂, e₁ - e₂ - 53, accuracyOfFraction (m₁ * 2 ^ 53 % m₂) m₂) := by
  have hlog₁ : m₁.log2 = 52 := h₁.log2_eq
  have hlog₂ : m₂.log2 = 52 := h₂.log2_eq
  have htarget : min (e₁ - e₂) (Format.binary64.targetExponent (totalExponent m₁ e₁ - totalExponent m₂ e₂)) =
      e₁ - e₂ - 53 := by
    simp only [Format.targetExponent, totalExponent, Format.mantissaBits, Format.minExponent, hlog₁, hlog₂]
    omega
  have hshift : (e₁ - e₂ - (e₁ - e₂ - 53)).toNat = 53 := by omega
  rw [divCore, htarget, hshift, Nat.shiftLeft_eq]

/-- The quotient of a value by one that is not greater is one at least. -/
theorem Has.exists_div {x y : Float} {m₁ m₂ : Nat} {e₁ e₂ : Int} (hx : Has x m₁ e₁) (hy : Has y m₂ e₂)
    (hlow : 0 ≤ e₁ - e₂) (hhigh : e₁ - e₂ ≤ 900) (hle : e₁ = e₂ → m₂ ≤ m₁) :
    ∃ m e, Has (x / y) m e ∧ -52 ≤ e := by
  obtain ⟨hfull₁, hx⟩ := hx
  obtain ⟨hfull₂, hy⟩ := hy
  obtain ⟨hmin, hmax, hequal⟩ := log2_quotient hfull₁ hfull₂
  obtain ⟨m, e, hfull, hround, hfrom, hto⟩ :=
    exists_round (e := e₁ - e₂ - 53) (accuracyOfFraction (m₁ * 2 ^ 53 % m₂) m₂) hmin (by omega)
  refine ⟨m, e, ⟨hfull, ?_⟩, ?_⟩
  · change (Float.Model.pack (UnpackedFloat.div .binary64 x.toModel.unpack y.toModel.unpack)).unpack = _
    rw [hx, hy, UnpackedFloat.div, divCore_eq hfull₁ hfull₂ hlow]
    change (Float.Model.pack (roundWithAccuracy .binary64 .positive _ _ _)).unpack = _
    rw [hround]
    exact unpack_pack hfull (by omega) (by omega)
  · by_cases h : e₁ = e₂
    · have := hequal (hle h)
      omega
    · omega

theorem Has.isFinite {x : Float} {m : Nat} {e : Int} (hx : Has x m e) : x.isFinite = true := by
  obtain ⟨_, hx⟩ := hx
  change x.toModel.unpack.isFinite = true
  rw [hx]
  rfl

theorem Has.one_le {x : Float} {m : Nat} {e : Int} (hx : Has x m e) (he : -52 ≤ e) : 1 ≤ x := by
  obtain ⟨hfull, hx⟩ := hx
  obtain ⟨_, hone⟩ : Has 1 (2 ^ 52) (-52) := has_toFloat (n := 1) (by decide) (by decide)
  change decide ((1 : Float).toModel ≤ x.toModel) = true
  rw [decide_eq_true_iff]
  change UnpackedFloat.le (1 : Float).toModel.unpack x.toModel.unpack = true
  rw [hone, hx]
  change ((compare (-52) e).then (compare (2 ^ 52) m)).isLE = true
  rcases Int.lt_or_eq_of_le he with hlt | rfl
  · rw [Int.compare_eq_lt.2 hlt]
    rfl
  · have hsame : compare (-52 : Int) (-52) = .eq := by decide
    rw [hsame]
    exact Nat.isLE_compare.2 hfull.1

/-- **The quotient of a count by one that is not greater is finite, and it is one at least.** -/
theorem toFloat_div {n d : Nat} (hpos : 0 < d) (hle : d ≤ n) (hn : n < 2 ^ 53) :
    1 ≤ n.toFloat / d.toFloat ∧ (n.toFloat / d.toFloat).isFinite = true := by
  have hn' : n.log2 < 53 := (Nat.log2_lt (by omega)).2 hn
  have hlog : d.log2 ≤ n.log2 := by
    rw [Nat.le_log2 (by omega)]
    exact Nat.le_trans (Nat.log2_self_le hpos.ne') hle
  have hmantissa : (n.log2 - 52 : Int) = d.log2 - 52 → d * 2 ^ (52 - d.log2) ≤ n * 2 ^ (52 - n.log2) := by
    intro h
    have hsame : n.log2 = d.log2 := by omega
    rw [hsame]
    exact Nat.mul_le_mul_right _ hle
  obtain ⟨m, e, hquotient, he⟩ :=
    (has_toFloat (by omega) hn).exists_div (has_toFloat hpos (by omega)) (by omega) (by omega) hmantissa
  exact ⟨hquotient.one_le he, hquotient.isFinite⟩

end Retrieval.Binary64
