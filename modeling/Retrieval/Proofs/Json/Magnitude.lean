import Mathlib.Algebra.Order.Field.Power
import Mathlib.Data.List.Induction
import Mathlib.Data.Nat.Log
import Mathlib.Tactic.NormNum
import Mathlib.Tactic.Ring
import Retrieval.Proofs.Json.Grammar

/-!
# Numbers in range

Whether a number is in range is told by its spelling, in double precision: digits that the significand has no room for are
dropped, and the significand and the power of ten are rounded. What is dropped makes a number no greater, and the
roundings make it greater by so little that no number up to the third greatest becomes infinite.

* `Scan.takeDigits_spec` : the digits that the significand has room for;
* `Scan.significand_le` : what is read of whole digits and a fraction is no more than they are worth;
* `Scan.nearest_le` : how much a rounded number is greater;
* `Scan.inRange_of_le` : what is finite before the factors are rounded and not too close to the bound;
* `Scan.spellingInRange_of_magnitude_le` : the spelling of a number that is not too close to it.
-/

namespace Retrieval.Json

namespace Scan

/-! ## Digits -/

def digit (c : Char) : Nat := c.toNat - '0'.toNat

theorem foldl_digits (n : Nat) (digits : List Char) :
    digits.foldl (fun n c => n * 10 + digit c) n = n * 10 ^ digits.length + digitsValue digits := by
  induction digits using List.reverseRecOn with
  | nil => simp [digitsValue]
  | append_singleton digits c ih =>
    have hvalue : digitsValue (digits ++ [c]) = digitsValue digits * 10 + digit c := List.foldl_concat ..
    rw [List.foldl_concat, ih, hvalue, List.length_append, List.length_singleton]
    ring

theorem digitsValue_append (front back : List Char) :
    digitsValue (front ++ back) = digitsValue front * 10 ^ back.length + digitsValue back := by
  rw [← foldl_digits, digitsValue, List.foldl_append]
  rfl

theorem digitsValue_cons (c : Char) (digits : List Char) :
    digitsValue (c :: digits) = digit c * 10 ^ digits.length + digitsValue digits := by
  have hdigit : digitsValue [c] = digit c := Nat.zero_add _
  rw [← List.singleton_append, digitsValue_append, hdigit]

/-- Digits are taken up to the first one that there is no room for. -/
theorem takeDigits_spec (n : Nat) (digits : List Char) : ∃ taken, digits = taken ++ (takeDigits n digits).2 ∧
    (takeDigits n digits).1 = n * 10 ^ taken.length + digitsValue taken ∧
    (taken = [] ∨ (takeDigits n digits).1 < 2 ^ 64) ∧
    ∀ c rest, (takeDigits n digits).2 = c :: rest → 2 ^ 64 ≤ (takeDigits n digits).1 * 10 + digit c := by
  induction digits generalizing n with
  | nil => exact ⟨[], rfl, by simp [takeDigits, digitsValue], .inl rfl, fun c rest h => by cases h⟩
  | cons c digits ih =>
    by_cases hroom : n * 10 + digit c < UInt64.size
    · have htake : takeDigits n (c :: digits) = takeDigits (n * 10 + digit c) digits := if_pos hroom
      obtain ⟨taken, hdigits, hvalue, hbound, hnext⟩ := ih (n * 10 + digit c)
      rw [htake]
      refine ⟨c :: taken, by rw [List.cons_append, ← hdigits], ?_, .inr ?_, hnext⟩
      · rw [hvalue, digitsValue_cons, List.length_cons]
        ring
      · obtain rfl | hbound := hbound
        · rw [hvalue]
          simpa [digitsValue] using hroom
        · exact hbound
    · have htake : takeDigits n (c :: digits) = (n, c :: digits) := if_neg hroom
      rw [htake]
      refine ⟨[], rfl, by simp [digitsValue], .inl rfl, ?_⟩
      rintro d rest h
      obtain ⟨rfl, -⟩ := List.cons.inj h
      exact Nat.le_of_not_lt hroom

/-- **What is read of digits is no more than they are worth**, each dropped one counting for a power of ten. -/
theorem significand_le (whole fraction : List Char) :
    (takeDigits (takeDigits 0 whole).1 fraction).1 *
        10 ^ ((takeDigits 0 whole).2.length + (takeDigits (takeDigits 0 whole).1 fraction).2.length) ≤
      digitsValue (whole ++ fraction) := by
  obtain ⟨taken, hwhole, hfront, -, hnext⟩ := takeDigits_spec 0 whole
  generalize takeDigits 0 whole = front at hwhole hfront hnext
  obtain ⟨front, dropped⟩ := front
  obtain ⟨taken', hfraction, hvalue, hbound, -⟩ := takeDigits_spec front fraction
  dsimp only at hwhole hfront hnext ⊢
  generalize takeDigits front fraction = significand at hfraction hvalue hbound
  obtain ⟨significand, dropped'⟩ := significand
  dsimp only at hfraction hvalue hbound ⊢
  have hwholeValue : digitsValue whole = front * 10 ^ dropped.length + digitsValue dropped := by
    rw [hwhole, digitsValue_append, hfront, Nat.zero_mul, Nat.zero_add]
  have hlength : fraction.length = taken'.length + dropped'.length := by rw [hfraction, List.length_append]
  rw [digitsValue_append, hwholeValue]
  cases dropped with
  | nil =>
    calc significand * 10 ^ ([].length + dropped'.length)
        = front * 10 ^ fraction.length + digitsValue taken' * 10 ^ dropped'.length := by
          rw [hvalue, hlength, List.length_nil]
          ring
      _ ≤ front * 10 ^ fraction.length + digitsValue fraction := by
          rw [hfraction, digitsValue_append]
          omega
      _ = _ := by simp [digitsValue]
  | cons c more =>
    -- no digit of the fraction is greater than the first one that was dropped
    have hfirst : significand * 10 ^ dropped'.length * 10 ≤ (front * 10 + digit c) * 10 ^ fraction.length := by
      cases taken' with
      | nil =>
        have hsame : significand = front := by simpa [digitsValue] using hvalue
        rw [hsame, hlength, List.length_nil, Nat.zero_add, Nat.mul_right_comm]
        exact Nat.mul_le_mul_right _ (Nat.le_add_right _ _)
      | cons d taken' =>
        have hless : significand ≤ front * 10 + digit c :=
          ((hbound.resolve_left (List.cons_ne_nil _ _)).trans_le (hnext c more rfl)).le
        calc significand * 10 ^ dropped'.length * 10 = significand * 10 ^ (dropped'.length + 1) := by ring
          _ ≤ (front * 10 + digit c) * 10 ^ fraction.length :=
            Nat.mul_le_mul hless (Nat.pow_le_pow_right (by decide) (by rw [hlength, List.length_cons]; omega))
    calc significand * 10 ^ ((c :: more).length + dropped'.length)
        = significand * 10 ^ dropped'.length * 10 * 10 ^ more.length := by
          rw [List.length_cons]
          ring
      _ ≤ (front * 10 + digit c) * 10 ^ fraction.length * 10 ^ more.length := Nat.mul_le_mul_right _ hfirst
      _ = (front * 10 ^ (c :: more).length + digit c * 10 ^ more.length) * 10 ^ fraction.length := by
          rw [List.length_cons]
          ring
      _ ≤ (front * 10 ^ (c :: more).length + digitsValue (c :: more)) * 10 ^ fraction.length := by
          rw [digitsValue_cons]
          exact Nat.mul_le_mul_right _ (by omega)
      _ ≤ _ := Nat.le_add_right _ _

/-! ## Rounding -/

theorem two_mul_roundEven_mul_le (num den : Nat) : 2 * (Decimal.roundEven num den * den) ≤ 2 * num + den := by
  have hdiv := Nat.div_add_mod num den
  have hquotient : 2 * (num / den * den) ≤ 2 * num := Nat.mul_le_mul_left 2 (Nat.div_mul_le_self num den)
  have hup (h : den ≤ 2 * (num % den)) : 2 * ((num / den + 1) * den) ≤ 2 * num + den := by
    rw [Nat.add_mul, Nat.mul_comm (num / den) den]
    omega
  unfold Decimal.roundEven
  dsimp only
  split
  · omega
  · next hcompare => exact hup (Nat.compare_eq_gt.1 hcompare).le
  · next hcompare =>
    split_ifs
    · omega
    · exact hup (Nat.compare_eq_eq.1 hcompare).ge

/-- Rounding makes a number greater by its 2 ^ 53th part at most. -/
theorem nearest_le (n : Nat) : nearest n * 2 ^ 53 ≤ n * (2 ^ 53 + 1) := by
  have hround := two_mul_roundEven_mul_le n (Nat.pow 2 (Nat.log2 n - 52))
  change 2 * nearest n ≤ 2 * n + Nat.pow 2 (Nat.log2 n - 52) at hround
  by_cases hsmall : Nat.log2 n ≤ 52
  · have hunit : Nat.pow 2 (Nat.log2 n - 52) = 1 := by
      rw [Nat.sub_eq_zero_of_le hsmall]
    have hle : nearest n ≤ n := by omega
    exact Nat.mul_le_mul hle (Nat.le_succ _)
  · have hpos : n ≠ 0 := by
      rintro rfl
      exact hsmall (Nat.zero_le 52)
    have hunit : Nat.pow 2 (Nat.log2 n - 52) * 2 ^ 52 ≤ n := by
      rw [Nat.pow_eq, ← Nat.pow_add, Nat.sub_add_cancel (Nat.le_of_not_le hsmall)]
      exact Nat.log2_self_le hpos
    calc nearest n * 2 ^ 53 = 2 * nearest n * 2 ^ 52 := by ring
      _ ≤ (2 * n + Nat.pow 2 (Nat.log2 n - 52)) * 2 ^ 52 := Nat.mul_le_mul_right _ hround
      _ = n * 2 ^ 53 + Nat.pow 2 (Nat.log2 n - 52) * 2 ^ 52 := by ring
      _ ≤ n * 2 ^ 53 + n := Nat.add_le_add_left hunit _
      _ = n * (2 ^ 53 + 1) := by ring

/-! ## Products -/

theorem limit_lt_ten_pow : Nat.pow 2 1024 - 3 * Nat.pow 2 971 < 10 ^ 309 := by decide +kernel

/-- There is room for both roundings. -/
theorem limit_mul_lt : (Nat.pow 2 1024 - 3 * Nat.pow 2 971) * (2 ^ 53 + 1) ^ 2 <
    (Nat.pow 2 1024 - Nat.pow 2 970) * 2 ^ 106 := by decide +kernel

theorem cast_limit : ((Nat.pow 2 1024 - 3 * Nat.pow 2 971 : Nat) : ℚ) = 2 ^ 1024 - 3 * 2 ^ 971 := by
  have hcast {k a b : Nat} (h : k * 2 ^ a ≤ 2 ^ b) : ((Nat.pow 2 b - k * Nat.pow 2 a : Nat) : ℚ) = 2 ^ b - k * 2 ^ a := by
    rw [Nat.pow_eq, Nat.pow_eq, Nat.cast_sub h]
    norm_cast
  exact hcast (by decide +kernel)

/-- **What is not too close to the bound is finite.** -/
theorem inRange_of_le {significand : Nat} {exponent : Int}
    (h : (significand : ℚ) * 10 ^ exponent ≤ 2 ^ 1024 - 3 * 2 ^ 971) : inRange significand exponent = true := by
  rw [inRange, Bool.or_eq_true, Bool.or_eq_true, decide_eq_true_iff, decide_eq_true_iff, Bool.and_eq_true,
    decide_eq_true_iff, decide_eq_true_iff, or_iff_not_imp_left]
  intro hnot
  obtain ⟨hzero, hexponent⟩ := not_or.1 hnot
  lift exponent to Nat using (Int.not_le.1 hexponent).le
  have hle : significand * 10 ^ exponent ≤ Nat.pow 2 1024 - 3 * Nat.pow 2 971 := by
    rw [zpow_natCast, ← cast_limit] at h
    exact_mod_cast h
  refine ⟨?_, ?_⟩
  · by_contra hlarge
    have hpower : 10 ^ 309 ≤ 10 ^ exponent := Nat.pow_le_pow_right (by decide) (by omega)
    have hless : 10 ^ exponent ≤ significand * 10 ^ exponent :=
      Nat.le_mul_of_pos_left _ (Nat.pos_of_ne_zero hzero)
    exact absurd limit_lt_ten_pow (Nat.not_lt.2 (hpower.trans (hless.trans hle)))
  · refine Nat.lt_of_mul_lt_mul_right (a := 2 ^ 106) ?_
    calc nearest significand * nearest (10 ^ exponent) * 2 ^ 106
        = nearest significand * 2 ^ 53 * (nearest (10 ^ exponent) * 2 ^ 53) := by ring
      _ ≤ significand * (2 ^ 53 + 1) * (10 ^ exponent * (2 ^ 53 + 1)) :=
        Nat.mul_le_mul (nearest_le _) (nearest_le _)
      _ = significand * 10 ^ exponent * (2 ^ 53 + 1) ^ 2 := by ring
      _ ≤ (Nat.pow 2 1024 - 3 * Nat.pow 2 971) * (2 ^ 53 + 1) ^ 2 := Nat.mul_le_mul_right _ hle
      _ < (Nat.pow 2 1024 - Nat.pow 2 970) * 2 ^ 106 := limit_mul_lt

/-! ## Spelling -/

def isMark (c : Char) : Bool := c = 'e' || c = 'E'

variable {n : Numeral}

theorem isMark_eq_false {digits : List Char} (h : ∀ c ∈ digits, c.isDigit) : ∀ c ∈ digits, !isMark c := by
  intro c hc
  have he := digit_ne (h c hc) (d := 'e') (by decide)
  have hE := digit_ne (h c hc) (d := 'E') (by decide)
  simp [isMark, he, hE]

def mantissa (n : Numeral) : List Char := n.whole ++ if n.fraction = [] then [] else '.' :: n.fraction

def tail (n : Numeral) : List Char := n.exponent.elim [] Exponent.chars

theorem not_isMark_of_mem_mantissa : ∀ c ∈ mantissa n, !isMark c := by
  rw [mantissa, List.forall_mem_append]
  refine ⟨isMark_eq_false n.isDigit_whole, ?_⟩
  split_ifs
  · exact List.forall_mem_nil _
  · exact List.forall_mem_cons.2 ⟨by decide, isMark_eq_false n.isDigit_fraction⟩

theorem isMark_of_tail_eq_cons : tail n = [] ∨ ∃ c rest, tail n = c :: rest ∧ isMark c := by
  rw [tail]
  cases n.exponent with
  | none => exact .inl rfl
  | some e =>
    refine .inr ⟨e.mark, _, rfl, ?_⟩
    simpa [isMark] using e.mark_mem

theorem dropWhile_chars : n.chars.dropWhile (· = '-') = mantissa n ++ tail n := by
  obtain ⟨d, ds, hwhole⟩ := List.exists_cons_of_ne_nil n.whole_ne_nil
  have hd : d ≠ '-' := digit_ne (n.isDigit_whole d (hwhole ▸ List.mem_cons_self)) (by decide)
  rw [Numeral.chars, mantissa, tail, hwhole]
  cases n.isNegative
  all_goals simp [hd]

theorem takeWhile_mantissa : (mantissa n ++ tail n).takeWhile (!isMark ·) = mantissa n := by
  rw [List.takeWhile_append_of_pos not_isMark_of_mem_mantissa]
  obtain h | ⟨c, rest, h, hc⟩ := isMark_of_tail_eq_cons (n := n)
  · simp [h]
  · simp [h, hc]

theorem dropWhile_isMark : n.chars.dropWhile (!isMark ·) = tail n := by
  have hsign : ∀ c ∈ (if n.isNegative then ['-'] else []), !isMark c := by
    split_ifs
    · exact (List.forall_mem_singleton).2 rfl
    · exact List.forall_mem_nil _
  have hfront : ∀ c ∈ (if n.isNegative then ['-'] else []) ++ mantissa n, !isMark c :=
    List.forall_mem_append.2 ⟨hsign, not_isMark_of_mem_mantissa⟩
  have hchars : n.chars = ((if n.isNegative then ['-'] else []) ++ mantissa n) ++ tail n := by
    simp [Numeral.chars, mantissa, tail]
  rw [hchars, List.dropWhile_append_of_pos hfront]
  obtain h | ⟨c, rest, h, hc⟩ := isMark_of_tail_eq_cons (n := n)
  · simp [h]
  · simp [h, hc]

theorem takeWhile_ne_point : (mantissa n).takeWhile (· ≠ '.') = n.whole ∧
    ((mantissa n).dropWhile (· ≠ '.')).drop 1 = n.fraction := by
  have hwhole : ∀ c ∈ n.whole, decide (c ≠ '.') = true :=
    fun c hc => decide_eq_true (digit_ne (n.isDigit_whole c hc) (by decide))
  rw [mantissa, List.takeWhile_append_of_pos hwhole, List.dropWhile_append_of_pos hwhole]
  split_ifs with h
  · simp [h]
  · simp

theorem exponent_of_tail : (if ((tail n).drop 1).head? = some '-'
      then -(digitsValue (((tail n).drop 1).filter Char.isDigit) : Int)
      else digitsValue (((tail n).drop 1).filter Char.isDigit)) = n.exponent.elim 0 Exponent.value := by
  rw [tail]
  cases n.exponent with
  | none => rfl
  | some e =>
    have hdigits : e.digits.filter Char.isDigit = e.digits := List.filter_eq_self.2 e.isDigit
    obtain ⟨d, ds, hcons⟩ := List.exists_cons_of_ne_nil e.digits_ne_nil
    have hd : d ≠ '-' := digit_ne (e.isDigit d (hcons ▸ List.mem_cons_self)) (by decide)
    have hhead : e.digits.head? ≠ some '-' := by simpa [hcons] using hd
    obtain h | h | h : e.sign = [] ∨ e.sign = ['+'] ∨ e.sign = ['-'] := by simpa using e.sign_mem
    all_goals simp [Exponent.chars, Exponent.value, h, hdigits, hhead]

/-- **A number up to the third greatest of double precision is read as a finite one.** -/
theorem spellingInRange_of_magnitude_le (h : n.magnitude ≤ 2 ^ 1024 - 3 * 2 ^ 971) :
    spellingInRange n.chars = true := by
  have hparts : spellingInRange n.chars = inRange (takeDigits (takeDigits 0 n.whole).1 n.fraction).1
      (n.exponent.elim 0 Exponent.value + (takeDigits 0 n.whole).2.length -
        (n.fraction.length - (takeDigits (takeDigits 0 n.whole).1 n.fraction).2.length)) := by
    have hmantissa : (n.chars.dropWhile (· = '-')).takeWhile (!isMark ·) = mantissa n := by
      rw [dropWhile_chars, takeWhile_mantissa]
    rw [← exponent_of_tail, ← dropWhile_isMark]
    conv_rhs => rw [← takeWhile_ne_point.1, ← takeWhile_ne_point.2, ← hmantissa]
    rfl
  have hle := significand_le n.whole n.fraction
  rw [hparts]
  refine inRange_of_le (le_trans ?_ h)
  generalize (takeDigits (takeDigits 0 n.whole).1 n.fraction).1 = significand at hle ⊢
  generalize (takeDigits 0 n.whole).2.length = dropped at hle ⊢
  generalize (takeDigits (takeDigits 0 n.whole).1 n.fraction).2.length = dropped' at hle ⊢
  generalize hscale : n.exponent.elim 0 Exponent.value - n.fraction.length = scale
  have hexponent : n.exponent.elim 0 Exponent.value + dropped - (n.fraction.length - dropped') =
      ((dropped + dropped' : Nat) : Int) + scale := by
    rw [← hscale]
    omega
  rw [Numeral.magnitude, hscale, hexponent, zpow_add₀ (by norm_num), zpow_natCast, ← mul_assoc]
  exact mul_le_mul_of_nonneg_right (by exact_mod_cast hle) (by positivity)

theorem spellingInRange_chars (h : n.InRange) : spellingInRange n.chars = true :=
  h.elim spellingInRange_of_magnitude_le id

end Scan

end Retrieval.Json
