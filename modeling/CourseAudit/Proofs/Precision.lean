import CourseAudit.Proofs.Quotient
import Mathlib.Tactic.Linarith
import Mathlib.Tactic.IntervalCases
import Mathlib.Tactic.NormNum

/-!
How far roundings lead away from an exact number. One rounding of a number that is neither tiny nor
huge is off by at most the 2^53rd part of it, and so is each operation on what has been rounded.
-/
namespace CourseAudit.Binary64

/-- The largest part by which one rounding is off. -/
def roundoff : ℚ := 1 / 2 ^ 53

section Ratios

variable {num den : Nat}

/-- Scaling divides a ratio by a power of two. -/
theorem scaleRatio_value (num den : Nat) (e : Int) :
    ((scaleRatio num den e).1 : ℚ) / (scaleRatio num den e).2 = (num : ℚ) / den / 2 ^ e := by
  unfold scaleRatio
  split
  · dsimp only
    rw [Nat.cast_mul, cast_two_pow (by omega), zpow_neg]
    ring
  · dsimp only
    rw [Nat.cast_mul, cast_two_pow (by omega), div_div]

theorem scaleRatio_positive (positive : 0 < den) (e : Int) : 0 < (scaleRatio num den e).2 := by
  unfold scaleRatio
  split
  · exact positive
  · exact Nat.mul_pos positive (Nat.two_pow_pos _)

/-- How many bits a dividend has more than its divisor bounds their quotient. -/
theorem quotient_bounds (some : num ≠ 0) (positive : 0 < den) :
    (2 : ℚ) ^ ((num.log2 : Int) - den.log2 - 1) ≤ num / den ∧
      (num : ℚ) / den < 2 ^ ((num.log2 : Int) - den.log2 + 1) := by
  have divisor : (0 : ℚ) < den := by exact_mod_cast positive
  have two : (2 : ℚ) ≠ 0 := by decide
  have numLow : (2 : ℚ) ^ (num.log2 : Int) ≤ num := by
    rw [zpow_natCast]
    exact_mod_cast Nat.log2_self_le some
  have numHigh : (num : ℚ) < 2 ^ ((num.log2 : Int) + 1) := by
    rw [← Nat.cast_succ, zpow_natCast]
    exact_mod_cast Nat.lt_log2_self
  have denLow : (2 : ℚ) ^ (den.log2 : Int) ≤ den := by
    rw [zpow_natCast]
    exact_mod_cast Nat.log2_self_le positive.ne'
  have denHigh : (den : ℚ) < 2 ^ ((den.log2 : Int) + 1) := by
    rw [← Nat.cast_succ, zpow_natCast]
    exact_mod_cast Nat.lt_log2_self
  constructor
  · rw [le_div_iff₀ divisor]
    calc (2 : ℚ) ^ ((num.log2 : Int) - den.log2 - 1) * den
        ≤ 2 ^ ((num.log2 : Int) - den.log2 - 1) * 2 ^ ((den.log2 : Int) + 1) :=
          mul_le_mul_of_nonneg_left denHigh.le (by positivity)
      _ = 2 ^ (num.log2 : Int) := by
          rw [← zpow_add₀ two]
          congr 1
          omega
      _ ≤ num := numLow
  · rw [div_lt_iff₀ divisor]
    calc (num : ℚ) < 2 ^ ((num.log2 : Int) + 1) := numHigh
      _ = 2 ^ ((num.log2 : Int) - den.log2 + 1) * 2 ^ (den.log2 : Int) := by
          rw [← zpow_add₀ two]
          congr 1
          omega
      _ ≤ 2 ^ ((num.log2 : Int) - den.log2 + 1) * den :=
          mul_le_mul_of_nonneg_left denLow (by positivity)

/-- The leading exponent leaves 53 bits before the point. -/
theorem leadingExponent_bounds (some : num ≠ 0) (positive : 0 < den) :
    (2 : ℚ) ^ (leadingExponent num den + 52) ≤ num / den ∧
      (num : ℚ) / den < 2 ^ (leadingExponent num den + 53) := by
  obtain ⟨low, high⟩ := quotient_bounds some positive
  unfold leadingExponent
  dsimp only
  generalize guessed : (num.log2 : Int) - den.log2 - 52 = guess
  have scaled := scaleRatio_value num den guess
  have step : (0 : ℚ) < 2 ^ guess := by positivity
  have whole : (0 : ℚ) < (scaleRatio num den guess).2 := by
    exact_mod_cast scaleRatio_positive positive guess
  rw [div_eq_iff whole.ne'] at scaled
  have shifted : (2 : ℚ) ^ (guess + 52) = 2 ^ guess * 2 ^ 52 := by
    rw [zpow_add₀ (by decide)]
    rfl
  split
  · next enough =>
      constructor
      · have cast : ((scaleRatio num den guess).2 : ℚ) * 2 ^ 52 ≤ (scaleRatio num den guess).1 := by
          exact_mod_cast enough
        rw [scaled, mul_comm] at cast
        rw [shifted, mul_comm]
        exact (le_div_iff₀ step).mp (le_of_mul_le_mul_right cast whole)
      · convert high using 2
        omega
  · next less =>
      constructor
      · convert low using 2
        omega
      · have cast : ((scaleRatio num den guess).1 : ℚ) < (scaleRatio num den guess).2 * 2 ^ 52 := by
          exact_mod_cast Nat.lt_of_not_le less
        rw [scaled, mul_comm ((scaleRatio num den guess).2 : ℚ)] at cast
        have place : guess - 1 + 53 = guess + 52 := by omega
        rw [place, shifted, mul_comm]
        exact (div_lt_iff₀ step).mp (lt_of_mul_lt_mul_right cast whole.le)

/-- Rounding to the nearest whole number is off by half a step at most. -/
theorem roundHalfEven_near (positive : 0 < den) :
    2 * (roundHalfEven num den * den) ≤ 2 * num + den ∧
      2 * num ≤ 2 * (roundHalfEven num den * den) + den := by
  have parts := Nat.div_add_mod num den
  have inside := Nat.mod_lt num positive
  rw [Nat.mul_comm] at parts
  unfold roundHalfEven
  dsimp only
  split
  · omega
  · split
    · rw [Nat.succ_mul (num / den)]
      omega
    · rcases Nat.mod_two_eq_zero_or_one (num / den) with even | odd
      · rw [even, Nat.add_zero]
        omega
      · rw [odd, Nat.succ_mul (num / den)]
        omega

/-- One rounding of a number that is neither tiny nor huge. -/
theorem ofRatio_near (positive : 0 < den) (low : (2 : ℚ) ^ (-1022 : Int) ≤ num / den)
    (high : (num : ℚ) / den < 2 ^ (1023 : Int)) :
    ∃ m e, ofRatio false num den = finite false m e ∧
      (num : ℚ) / den * (1 - roundoff) ≤ exact false m e ∧
        exact false m e ≤ (num : ℚ) / den * (1 + roundoff) := by
  have some : num ≠ 0 := by
    rintro rfl
    rw [Nat.cast_zero, zero_div] at low
    exact absurd low (not_le.mpr (by positivity))
  obtain ⟨above, below⟩ := leadingExponent_bounds some positive
  have normal : max (leadingExponent num den) minExponent = leadingExponent num den := by
    have := (zpow_lt_zpow_iff_right₀ (by decide : (1 : ℚ) < 2)).mp (low.trans_lt below)
    unfold minExponent
    omega
  have inside : leadingExponent num den < maxExponent := by
    have := (zpow_lt_zpow_iff_right₀ (by decide : (1 : ℚ) < 2)).mp (above.trans_lt high)
    unfold maxExponent
    omega
  simp only [ofRatio, if_neg some, normal]
  generalize leadingExponent num den = place at above inside
  have scaled := scaleRatio_value num den place
  have whole : 0 < (scaleRatio num den place).2 := scaleRatio_positive positive place
  generalize (scaleRatio num den place).1 = top, (scaleRatio num den place).2 = bottom at *
  obtain ⟨m, e, carried, same⟩ := @carry_eq_finite false (roundHalfEven top bottom) place inside
  refine ⟨m, e, carried, ?_⟩
  have step : (0 : ℚ) < 2 ^ place := by positivity
  have divisor : (0 : ℚ) < bottom := by exact_mod_cast whole
  obtain ⟨up, down⟩ := @roundHalfEven_near top bottom whole
  generalize roundHalfEven top bottom = rounded at same up down
  have value : exact false m e = rounded * 2 ^ place := by
    rw [same]
    simp [exact, signed]
  generalize (num : ℚ) / den = ratio at above scaled
  have units : ratio = top / bottom * 2 ^ place := by rw [scaled, div_mul_cancel₀ _ step.ne']
  -- half a step is the 2^53rd part of the smallest number of 53 bits
  have bits : (2 : ℚ) ^ 52 ≤ top / bottom := by
    rw [scaled, le_div_iff₀ step]
    calc (2 : ℚ) ^ 52 * 2 ^ place = 2 ^ (place + 52) := by
          rw [zpow_add₀ (by decide), mul_comm]
          rfl
      _ ≤ ratio := above
  have most : (rounded : ℚ) ≤ top / bottom + 1 / 2 := by
    rw [← sub_le_iff_le_add, le_div_iff₀ divisor]
    have cast : 2 * ((rounded : ℚ) * bottom) ≤ 2 * top + bottom := by exact_mod_cast up
    linarith
  have least : (top : ℚ) / bottom - 1 / 2 ≤ rounded := by
    rw [sub_le_iff_le_add, div_le_iff₀ divisor]
    have cast : 2 * (top : ℚ) ≤ 2 * ((rounded : ℚ) * bottom) + bottom := by exact_mod_cast down
    linarith
  rw [value, units, mul_right_comm, mul_right_comm _ _ (1 + roundoff)]
  unfold roundoff
  constructor
  · exact mul_le_mul_of_nonneg_right (by linarith) step.le
  · exact mul_le_mul_of_nonneg_right (by linarith) step.le

end Ratios

/-- What an exact number may have become after so many roundings. -/
def IsRounded (steps : Nat) (q : ℚ) (x : Binary64) : Prop :=
  ∃ m e, x = finite false m e ∧ q * (1 - roundoff) ^ steps ≤ exact false m e ∧
    exact false m e ≤ q * (1 + roundoff) ^ steps

/-- Zero, and what is far from the ends of the range of finite numbers. -/
def IsModerate (q : ℚ) : Prop := q = 0 ∨ (2 : ℚ) ^ (-100 : Int) ≤ q ∧ q ≤ 2 ^ (100 : Int)

theorem exact_zero (e : Int) : exact false 0 e = 0 := by
  simp [exact, signed]

section Operations

variable {steps : Nat} {q r : ℚ} {x y : Binary64}

/-- Rounding once more what some roundings have led to. -/
theorem isRounded_ofRatio {num den : Nat} (few : steps ≤ 2) (moderate : IsModerate q)
    (positive : 0 < den) (low : q * (1 - roundoff) ^ steps ≤ num / den)
    (high : (num : ℚ) / den ≤ q * (1 + roundoff) ^ steps) :
    IsRounded (steps + 1) q (ofRatio false num den) := by
  rcases moderate with rfl | ⟨tiny, huge⟩
  · have divisor : (0 : ℚ) < den := by exact_mod_cast positive
    rw [zero_mul, div_le_iff₀ divisor, zero_mul] at high
    have none : num = 0 := by exact_mod_cast le_antisymm high num.cast_nonneg
    refine ⟨0, minExponent, by rw [ofRatio, if_pos none], ?_⟩
    simp [exact_zero]
  have least : (1 : ℚ) / 2 ≤ (1 - roundoff) ^ steps := by
    interval_cases steps <;> norm_num [roundoff]
  have most : (1 + roundoff) ^ steps ≤ (2 : ℚ) := by
    interval_cases steps <;> norm_num [roundoff]
  have kept := mul_le_mul tiny least (by norm_num) ((by positivity : (0 : ℚ) ≤ _).trans tiny)
  have grown := mul_le_mul huge most (by unfold roundoff; positivity) (by positivity)
  have above : (2 : ℚ) ^ (-1022 : Int) ≤ num / den :=
    calc (2 : ℚ) ^ (-1022 : Int) ≤ 2 ^ (-101 : Int) := zpow_le_zpow_right₀ one_le_two (by decide)
      _ = 2 ^ (-100 : Int) * (1 / 2) := by norm_num
      _ ≤ q * (1 - roundoff) ^ steps := kept
      _ ≤ num / den := low
  have below : (num : ℚ) / den < 2 ^ (1023 : Int) :=
    calc (num : ℚ) / den ≤ q * (1 + roundoff) ^ steps := high
      _ ≤ 2 ^ (100 : Int) * 2 := grown
      _ = 2 ^ (101 : Int) := by norm_num
      _ < 2 ^ (1023 : Int) := zpow_lt_zpow_right₀ one_lt_two (by decide)
  obtain ⟨m, e, finite, down, up⟩ := ofRatio_near positive above below
  refine ⟨m, e, finite, ?_, ?_⟩
  · rw [pow_succ, ← mul_assoc]
    exact (mul_le_mul_of_nonneg_right low (by norm_num [roundoff])).trans down
  · rw [pow_succ, ← mul_assoc]
    exact up.trans (mul_le_mul_of_nonneg_right high (by norm_num [roundoff]))

/-- Without roundings a number is the exact one. -/
theorem IsRounded.exact_eq (h : IsRounded 0 r y) :
    ∃ n f, y = finite false n f ∧ exact false n f = r := by
  obtain ⟨n, f, rfl, low, high⟩ := h
  rw [pow_zero, mul_one] at low high
  exact ⟨n, f, rfl, le_antisymm high low⟩

/-- The ratio of a magnitude is a positive number itself. -/
theorem magnitude_ratio (m : Nat) (e : Int) :
    ((magnitude m e).1 : ℚ) / (magnitude m e).2 = exact false m e := by
  rw [← magnitude_eq_exact]
  rfl

theorem magnitude_positive (m : Nat) (e : Int) : 0 < (magnitude m e).2 := by
  unfold magnitude
  split
  · exact Nat.two_pow_pos _
  · exact Nat.one_pos

/-- The ratio that is rounded to a quotient. -/
theorem quotient_ratio (m n : Nat) (e f : Int) :
    ((magnitude m (e - f)).1 : ℚ) / ((magnitude m (e - f)).2 * n : Nat) =
      exact false m e / exact false n f := by
  rw [Nat.cast_mul, ← div_div, magnitude_ratio, exact, exact, exact, zpow_sub₀ (by decide)]
  simp only [signed, Bool.false_eq_true, if_false, Int.cast_natCast]
  ring

/-- The ratio that is rounded to a product. -/
theorem product_ratio (m n : Nat) (e f : Int) :
    ((magnitude (m * n) (e + f)).1 : ℚ) / (magnitude (m * n) (e + f)).2 =
      exact false m e * exact false n f := by
  rw [magnitude_ratio, exact, exact, exact, zpow_add₀ (by decide), signed_mul]
  simp only [signed, Bool.false_eq_true, if_false, Int.cast_mul, Int.cast_natCast]
  ring

/-- The units of two summands at their common base. -/
theorem sum_units (s t : Bool) (m n : Nat) (e f : Int) :
    ((unitsAt (min e f) s m e + unitsAt (min e f) t n f : Int) : ℚ) * 2 ^ min e f =
      exact s m e + exact t n f := by
  have left := unitsAt_eq_exact (min_le_left e f) s m
  have right := unitsAt_eq_exact (min_le_right e f) t n
  rw [Int.cast_add, add_mul, left, right]

/-- The ratio that is rounded to a sum, whatever the sign of the sum is. -/
theorem sum_ratio (s t : Bool) (m n : Nat) (e f : Int) :
    ((magnitude (unitsAt (min e f) s m e + unitsAt (min e f) t n f).natAbs (min e f)).1 : ℚ) /
        (magnitude (unitsAt (min e f) s m e + unitsAt (min e f) t n f).natAbs (min e f)).2 =
      |exact s m e + exact t n f| := by
  have step : (0 : ℚ) < 2 ^ min e f := by positivity
  rw [magnitude_ratio, ← sum_units, abs_mul, abs_of_pos step, exact]
  simp only [signed, Bool.false_eq_true, if_false, Int.natCast_natAbs, Int.cast_abs]

theorem IsRounded.div (few : steps ≤ 2) (hx : IsRounded steps q x) (hy : IsRounded 0 r y)
    (positive : 0 < r) (moderate : IsModerate (q / r)) :
    IsRounded (steps + 1) (q / r) (x.div y) := by
  obtain ⟨m, e, rfl, low, high⟩ := hx
  obtain ⟨n, f, rfl, rfl⟩ := hy.exact_eq
  have divisor : 0 < n := by
    rcases Nat.eq_zero_or_pos n with rfl | some
    · exact absurd positive (by simp [exact_zero])
    · exact some
  have quotient : (finite false m e).div (finite false n f) =
      ofRatio false (magnitude m (e - f)).1 ((magnitude m (e - f)).2 * n) := by
    simp only [Binary64.div, if_neg divisor.ne', bne_self_eq_false]
  rw [quotient]
  apply isRounded_ofRatio few moderate (Nat.mul_pos (magnitude_positive m _) divisor)
  · rw [quotient_ratio, div_mul_eq_mul_div]
    exact div_le_div_of_nonneg_right low positive.le
  · rw [quotient_ratio, div_mul_eq_mul_div]
    exact div_le_div_of_nonneg_right high positive.le

theorem IsRounded.mul (few : steps ≤ 2) (hx : IsRounded steps q x) (hy : IsRounded 0 r y)
    (positive : 0 < r) (moderate : IsModerate (q * r)) :
    IsRounded (steps + 1) (q * r) (x.mul y) := by
  obtain ⟨m, e, rfl, low, high⟩ := hx
  obtain ⟨n, f, rfl, rfl⟩ := hy.exact_eq
  have product : (finite false m e).mul (finite false n f) =
      ofRatio false (magnitude (m * n) (e + f)).1 (magnitude (m * n) (e + f)).2 := by
    simp only [Binary64.mul, bne_self_eq_false]
  rw [product]
  apply isRounded_ofRatio few moderate (magnitude_positive _ _)
  · rw [product_ratio, mul_right_comm]
    exact mul_le_mul_of_nonneg_right low positive.le
  · rw [product_ratio, mul_right_comm]
    exact mul_le_mul_of_nonneg_right high positive.le

theorem IsRounded.add (few : steps ≤ 2) (hx : IsRounded steps q x) (hy : IsRounded 0 r y)
    (nonnegative : 0 ≤ q) (positive : 0 < r) (moderate : IsModerate (q + r)) :
    IsRounded (steps + 1) (q + r) (x.add y) := by
  obtain ⟨m, e, rfl, low, high⟩ := hx
  obtain ⟨n, f, rfl, rfl⟩ := hy.exact_eq
  have sum : 0 < exact false m e + exact false n f := by
    have kept : 0 ≤ q * (1 - roundoff) ^ steps :=
      mul_nonneg nonnegative (pow_nonneg (by norm_num [roundoff]) _)
    linarith
  have some : 0 < unitsAt (min e f) false m e + unitsAt (min e f) false n f := by
    have units := sum
    rw [← sum_units] at units
    exact_mod_cast (mul_pos_iff_of_pos_right (by positivity)).mp units
  have added : (finite false m e).add (finite false n f) =
      ofRatio false
        (magnitude (unitsAt (min e f) false m e + unitsAt (min e f) false n f).natAbs (min e f)).1
        (magnitude (unitsAt (min e f) false m e + unitsAt (min e f) false n f).natAbs
          (min e f)).2 := by
    simp only [Binary64.add, if_neg some.ne', decide_eq_false some.not_gt]
  rw [added]
  have kept : (1 - roundoff) ^ steps ≤ 1 :=
    pow_le_one₀ (by norm_num [roundoff]) (by norm_num [roundoff])
  have grown : 1 ≤ (1 + roundoff) ^ steps := one_le_pow₀ (by norm_num [roundoff])
  apply isRounded_ofRatio few moderate (magnitude_positive _ _)
  · rw [sum_ratio, abs_of_pos sum, add_mul]
    exact add_le_add low (mul_le_of_le_one_right positive.le kept)
  · rw [sum_ratio, abs_of_pos sum, add_mul]
    exact add_le_add high (le_mul_of_one_le_right positive.le grown)

/-- Rounding down gives the greatest integer that is not above the number. -/
theorem floor?_finite {s : Bool} {m : Nat} {e : Int} :
    (finite s m e).floor? = some ⌊exact s m e⌋ := by
  rw [← magnitude_eq_exact, ← fdiv_eq_floor]
  rfl

/-- A natural number of at most 53 bits is not rounded. -/
theorem isRounded_ofInt {n : Nat} (small : n < 2 ^ 53) : IsRounded 0 n (ofInt n) := by
  have positive : decide ((n : Int) < 0) = false := by simp
  rw [ofInt, positive, Int.natAbs_natCast]
  by_cases zero : n = 0
  · refine ⟨0, minExponent, by rw [ofRatio, if_pos zero], ?_⟩
    simp [exact_zero, zero]
  obtain ⟨m, e, finite, value⟩ := @ofRatio_eq_finite n 1 small zero
  have whole (k : Nat) : roundHalfEven k 1 = k := by
    simp [roundHalfEven, Nat.mod_one]
  refine ⟨m, e, finite, ?_⟩
  rw [value, whole, Nat.cast_mul, Nat.cast_pow, Nat.cast_ofNat,
    mul_div_cancel_right₀ _ (by positivity)]
  simp

end Operations

end CourseAudit.Binary64
