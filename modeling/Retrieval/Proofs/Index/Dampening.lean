import Retrieval.Proofs.Index.Quotient

/-!
# Dampened frequencies

A frequency is dampened to one more than its logarithm. However great the frequency is, and whatever is lost in rounding,
that is one at least, so that it is never mistaken for a term that does not occur.

* `Binary64.one_le_pack_round` : what is rounded from one or more is one at least;
* `Binary64.one_le_toFloat` : a positive count as a floating-point number;
* `Binary64.one_le_one_add` : the sum of one and what is not negative;
* `Weight.dampened`, `Weight.one_le_dampened`, `Weight.dampened_eq_zero_iff` : dampened frequencies, given a logarithm.
-/

namespace Retrieval

namespace Binary64

open Float.Model Float.Model.UnpackedFloat

/-! ## Rounding from one on -/

theorem one_le_infinity : 1 ≤ Float.ofModel (Float.Model.pack (.infinity .positive)) := by decide

theorem pack_eq_infinity {m : Nat} {e : Int} (hm : 0 < m) (he : 972 ≤ e) :
    Float.Model.pack (.finite .positive m e hm) = Float.Model.pack (.infinity .positive) := by
  have hgreat : 2 ^ Format.binary64.exponentBits ≤
      (e + Format.binary64.exponentBias + Format.binary64.mantissaBitsWithoutImplicit).toNat + 1 := by
    change 2 ^ 11 ≤ (e + (1023 : Nat) + (52 : Nat)).toNat + 1
    omega
  have hpack : UnpackedFloat.pack .binary64 (.finite .positive m e hm) =
      UnpackedFloat.pack .binary64 (.infinity .positive) := by
    simp only [UnpackedFloat.pack]
    rw [if_pos hgreat]
  simp only [Float.Model.pack, hpack]

/-- **What is rounded from one or more is one at least.** -/
theorem one_le_pack_round {m : Nat} {e : Int} (hm : 52 ≤ m.log2) (he : -52 ≤ e + (m.log2 - 52)) :
    1 ≤ Float.ofModel (Float.Model.pack (roundWithAccuracy .binary64 .positive m e .exact)) := by
  obtain ⟨m', e', hfull, hround, hfrom, -⟩ := exists_round (e := e) .exact hm (by omega)
  rw [hround]
  by_cases hgreat : 972 ≤ e'
  · rw [pack_eq_infinity hfull.pos hgreat]
    exact one_le_infinity
  · exact Has.one_le ⟨hfull, unpack_pack hfull (by omega) (by omega)⟩ (by omega)

/-! ## Counts -/

theorem toFloat_eq_round {n : Nat} (hn : 2 ^ 53 ≤ n) :
    n.toFloat = Float.ofModel (Float.Model.pack (roundWithAccuracy .binary64 .positive (n * 2 ^ 53) (-53) .exact)) := by
  have hpowers : ¬ (n < 2 ^ 53 ∧ 0 ≤ 22) := by omega
  have hne : n ≠ 0 := by omega
  have hsmall : ¬ (Int.ofNat 0 > 2 ^ Format.binary64.exponentBits) := by decide
  have hgreat : ¬ (Int.ofNat 0 < -(2 ^ Format.binary64.exponentBits + (n.log2 : Int))) := by
    change ¬ ((0 : Int) < -(2 ^ 11 + (n.log2 : Int)))
    omega
  change Float.ofScientific n false 0 = _
  rw [Float.ofScientific, dif_neg hpowers]
  simp only [Bool.false_eq_true, if_false, Float.Model.ofScientific]
  rw [UnpackedFloat.ofScientific, dif_neg hne, if_neg hsmall, if_neg hgreat, if_pos (by decide), UnpackedFloat.mul]
  change Float.ofModel (Float.Model.pack (roundWithAccuracy .binary64 .positive (n <<< 53 * 1) (-53) .exact)) = _
  rw [Nat.mul_one, Nat.shiftLeft_eq]

/-- **A positive count is one at least as a floating-point number**, also where it is rounded. -/
theorem one_le_toFloat {n : Nat} (hpos : 0 < n) : 1 ≤ n.toFloat := by
  by_cases hn : n < 2 ^ 53
  · exact (has_toFloat hpos hn).one_le (by omega)
  · have hlog := log2_mul_two_pow hpos 53
    rw [toFloat_eq_round (by omega)]
    exact one_le_pack_round (by omega) (by omega)

/-! ## Sums -/

theorem round_eq_roundWithAccuracy {m : Nat} {e : Int} (hm : 52 ≤ m.log2) (he : -1074 ≤ e + (m.log2 - 52)) :
    UnpackedFloat.round .binary64 .positive m e = roundWithAccuracy .binary64 .positive m e .exact := by
  have hshift : (e - (e + (m.log2 - 52))).toNat = 0 := by omega
  rw [UnpackedFloat.round, targetExponent_eq he, decreaseExponent, hshift, Nat.shiftLeft_zero, Int.natCast_zero,
    Int.sub_zero]

/-- One and a finite positive value, at the smaller one of the exponents. -/
theorem add_one_finite {m : Nat} {e : Int} (hm : 0 < m) (hone : 0 < 2 ^ 52) :
    UnpackedFloat.add .binary64 (.finite .positive (2 ^ 52) (-52) hone) (.finite .positive m e hm) =
      UnpackedFloat.round .binary64 .positive
        (2 ^ 52 * 2 ^ (-52 - min (-52) e).toNat + m * 2 ^ (e - min (-52) e).toNat) (min (-52) e) := by
  have hpos : 0 < 2 ^ 52 * 2 ^ (-52 - min (-52) e).toNat := Nat.mul_pos hone (Nat.two_pow_pos _)
  rw [UnpackedFloat.add]
  dsimp only [decreaseExponent, Sign.apply]
  rw [Nat.shiftLeft_eq, Nat.shiftLeft_eq, ← Int.natCast_add, UnpackedFloat.normalize,
    Int.compare_eq_gt.2 (by omega)]
  dsimp only
  rw [Int.toNat_natCast]

/-- **The sum of one and what is not negative is one at least.** -/
theorem one_le_one_add {x : Float} (hx : 0 ≤ x) : 1 ≤ 1.0 + x := by
  obtain ⟨_, hone⟩ : Has 1.0 (2 ^ 52) (-52) := ⟨⟨by decide, by decide⟩, rfl⟩
  have hle : UnpackedFloat.le (.zero .positive) x.toModel.unpack = true := of_decide_eq_true hx
  change 1 ≤ Float.ofModel (Float.Model.pack (UnpackedFloat.add .binary64 (1.0 : Float).toModel.unpack x.toModel.unpack))
  rw [hone]
  cases hunpack : x.toModel.unpack with
  | notANumber =>
    rw [hunpack] at hle
    cases hle
  | infinity sign =>
    cases sign with
    | positive => exact one_le_infinity
    | negative =>
      rw [hunpack] at hle
      cases hle
  | zero sign => exact (by decide : 1 ≤ (1.0 : Float))
  | finite sign m e hm =>
    cases sign with
    | negative =>
      rw [hunpack] at hle
      cases hle
    | positive =>
      rw [add_one_finite]
      generalize hlow : min (-52) e = low
      -- the one alone has as many digits as it takes
      have hdigits : 52 + (-52 - low).toNat ≤
          (2 ^ 52 * 2 ^ (-52 - low).toNat + m * 2 ^ (e - low).toNat).log2 := by
        rw [Nat.le_log2 (by positivity), Nat.pow_add]
        exact Nat.le_add_right _ _
      rw [round_eq_roundWithAccuracy (by omega) (by omega)]
      exact one_le_pack_round (by omega) (by omega)

end Binary64

/-! ## Frequencies -/

namespace Weight

/-- What dampening needs of a logarithm: from one on it is not negative. -/
def NonnegFromOne (log10 : Float → Float) : Prop := ∀ x : Float, 1 ≤ x → 0 ≤ log10 x

/-- The dampened frequency, given a logarithm. -/
def dampened (log10 : Float → Float) (frequency : Nat) : Float :=
  if frequency = 0 then 0.0 else 1.0 + log10 frequency.toFloat

theorem one_le_dampened {log10 : Float → Float} (hlog : NonnegFromOne log10) {frequency : Nat} (h : frequency ≠ 0) :
    1 ≤ dampened log10 frequency := by
  rw [dampened, if_neg h]
  exact Binary64.one_le_one_add (hlog _ (Binary64.one_le_toFloat (Nat.pos_of_ne_zero h)))

/-- **Only a term that does not occur is dampened to zero.** -/
theorem dampened_eq_zero_iff {log10 : Float → Float} (hlog : NonnegFromOne log10) {frequency : Nat} :
    dampened log10 frequency = 0.0 ↔ frequency = 0 := by
  constructor
  · intro hzero
    by_contra hne
    have hone := one_le_dampened hlog hne
    rw [hzero] at hone
    exact absurd hone (by decide)
  · exact fun hzero => if_pos hzero

end Weight

end Retrieval
