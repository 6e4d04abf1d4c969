import CourseAudit.Proofs.Precision

/-!
Integers among the binary numbers. Up to 2 ^ 53 on either side of zero an integer is a number
itself and nothing is rounded, and numbers that are integers compare as the integers do.
-/
namespace CourseAudit.Binary64

variable {s : Bool} {n : Nat} {i j : Int} {x y : Binary64}

/-- The sign of a ratio is only passed on. -/
theorem ofRatio_true (num den : Nat) : ofRatio true num den = (ofRatio false num den).neg := by
  have carried (m : Nat) (e : Int) : carry true m e = (carry false m e).neg := by
    unfold carry
    split
    · split
      · rfl
      · rfl
    · split
      · rfl
      · rfl
  unfold ofRatio
  split
  · rfl
  · exact carried _ _

/-- A natural number is its own quotient by one, up to the first one that takes 54 bits. -/
theorem toInt?_natural (small : n ≤ 2 ^ 53) : (ofRatio false n 1).toInt? = some (n : Int) := by
  rcases Nat.lt_or_eq_of_le small with less | rfl
  · obtain ⟨m, e, finite, value⟩ := (isRounded_ofInt less).exact_eq
    have positive : decide ((n : Int) < 0) = false := decide_eq_false (by omega)
    rw [ofInt, positive, Int.natAbs_natCast] at finite
    rw [finite, toInt?_finite_iff]
    exact_mod_cast value
  · decide +kernel

theorem toInt?_neg (h : x.toInt? = some i) : x.neg.toInt? = some (-i) := by
  cases x with
  | finite s m e =>
      rw [toInt?_finite_iff] at h
      rw [neg, toInt?_finite_iff, exact, signed_not, Int.cast_neg, neg_mul, Int.cast_neg]
      exact congrArg _ h
  | infinite s => cases h
  | nan p => cases h

theorem toInt?_ofRatio_one (small : n ≤ 2 ^ 53) :
    (ofRatio s n 1).toInt? = some (signed s n) := by
  cases s with
  | false => exact toInt?_natural small
  | true =>
      rw [ofRatio_true]
      exact toInt?_neg (toInt?_natural small)

/-- An integer of magnitude at most 2 ^ 53 is not rounded. -/
theorem toInt?_ofInt (small : i.natAbs ≤ 2 ^ 53) : (ofInt i).toInt? = some i := by
  rw [ofInt, toInt?_ofRatio_one small, signed]
  congr 1
  by_cases negative : i < 0
  · rw [decide_eq_true negative, if_pos rfl]
    omega
  · rw [decide_eq_false negative, if_neg Bool.false_ne_true]
    omega

theorem isFinite_of_toInt? (h : x.toInt? = some i) : x.isFinite = true := by
  cases x with
  | finite s m e => rfl
  | infinite s => cases h
  | nan p => cases h

/-- Units compare as what they count. -/
theorem compare_units {a b : Int} {step : ℚ} (positive : 0 < step) (left : a * step = i)
    (right : b * step = j) : compare a b = compare i j := by
  have less {a b i j : Int} (left : a * step = i) (right : b * step = j) (below : i < j) :
      a < b := by
    have counted : (a : ℚ) * step < b * step := by
      rw [left, right]
      exact_mod_cast below
    exact_mod_cast lt_of_mul_lt_mul_right counted positive.le
  rcases lt_trichotomy i j with below | rfl | above
  · rw [compare_lt_iff_lt.mpr below, compare_lt_iff_lt.mpr (less left right below)]
  · have same : a = b := by
      exact_mod_cast mul_right_cancel₀ positive.ne' (left.trans right.symm)
    rw [compare_eq_iff_eq.mpr rfl, compare_eq_iff_eq.mpr same]
  · rw [compare_gt_iff_gt.mpr above, compare_gt_iff_gt.mpr (less right left above)]

/-- Numbers that are integers compare as these. -/
theorem compare?_of_toInt? (hx : x.toInt? = some i) (hy : y.toInt? = some j) :
    compare? x y = some (compare i j) := by
  cases x with
  | infinite s => cases hx
  | nan p => cases hx
  | finite s m e =>
      cases y with
      | infinite t => cases hy
      | nan q => cases hy
      | finite t k f =>
          rw [toInt?_finite_iff] at hx hy
          have left := (unitsAt_eq_exact (min_le_left e f) s m).trans hx
          have right := (unitsAt_eq_exact (min_le_right e f) t k).trans hy
          exact congrArg some (compare_units (zpow_pos (by decide) _) left right)

/-- The relations of two numbers, said of integers. -/
structure RelatedAs (x y : Binary64) (i j : Int) : Prop where
  equal : x.equal y = decide (i = j)
  gt : x.gt y = decide (j < i)
  lt : x.lt y = decide (i < j)
  ge : x.ge y = decide (j ≤ i)
  le : x.le y = decide (i ≤ j)

theorem relatedAs_of_toInt? (hx : x.toInt? = some i) (hy : y.toInt? = some j) :
    RelatedAs x y i j := by
  have compared := compare?_of_toInt? hx hy
  have same : x.equal y = decide (i = j) := by
    rw [Binary64.equal, compared, Bool.eq_iff_iff]
    simp
  have more : x.gt y = decide (j < i) := by
    rw [Binary64.gt, compared, Bool.eq_iff_iff]
    simp [compare_gt_iff_gt]
  have less : x.lt y = decide (i < j) := by
    rw [Binary64.lt, compared, Bool.eq_iff_iff]
    simp [compare_lt_iff_lt]
  refine ⟨same, more, less, ?_, ?_⟩
  · rw [ge, more, same, Bool.eq_iff_iff]
    simp only [Bool.or_eq_true, decide_eq_true_iff]
    omega
  · rw [le, less, same, Bool.eq_iff_iff]
    simp only [Bool.or_eq_true, decide_eq_true_iff]
    omega

end CourseAudit.Binary64
