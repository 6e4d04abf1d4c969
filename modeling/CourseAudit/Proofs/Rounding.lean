import CourseAudit.Proofs.Precision
import CourseAudit.Value.Coercion

/-!
Which ratios and integers are near a finite number. A ratio is cut after 53 bits, and it leaves the
range of numbers where what is cut off rounds the largest significand up.
-/
namespace CourseAudit.Binary64

/-- The least magnitude of an integer that no finite number is nearest to: half a step beyond the
largest finite number. -/
def integerLimit : Nat :=
  (Nat.pow 2 53 - 1) * Nat.pow 2 maxExponent.toNat + Nat.pow 2 (maxExponent.toNat - 1)

theorem integerLimit_eq : (integerLimit : ℚ) = (2 ^ 53 - 1 / 2) * 2 ^ maxExponent := by
  obtain ⟨k, top⟩ : ∃ k : Nat, maxExponent = k + 1 := ⟨970, rfl⟩
  have places : maxExponent.toNat = k + 1 := by omega
  have halves : integerLimit = (2 ^ 53 - 1) * 2 ^ (k + 1) + 2 ^ k := by
    rw [integerLimit, places]
    rfl
  have step : (2 : ℚ) ^ maxExponent = 2 ^ (k + 1) := by
    rw [top]
    exact zpow_natCast 2 (k + 1)
  rw [halves, step, pow_succ]
  push_cast
  ring

/-- A ratio below an even whole number is rounded to it from half a step below it on. -/
theorem roundHalfEven_eq_iff {num den top : Nat} (even : top % 2 = 0) (below : num < top * den) :
    roundHalfEven num den = top ↔ 2 * (top * den) ≤ 2 * num + den := by
  obtain ⟨last, rfl⟩ : ∃ last, top = last + 1 := Nat.exists_eq_succ_of_ne_zero (by
    rintro rfl
    omega)
  have positive : 0 < den := Nat.pos_of_ne_zero (by
    rintro rfl
    omega)
  have parts := Nat.div_add_mod num den
  have inside : num / den ≤ last := Nat.lt_succ_iff.mp (Nat.div_lt_of_lt_mul (by
    rwa [Nat.mul_comm]))
  rw [Nat.succ_mul last] at below ⊢
  rcases Nat.lt_or_eq_of_le inside with far | whole
  -- Further below, rounding does not reach.
  · have gap : (num / den + 1) * den ≤ last * den := Nat.mul_le_mul_right _ far
    have rest : num % den < den := Nat.mod_lt _ positive
    rw [Nat.succ_mul (num / den), Nat.mul_comm (num / den)] at gap
    unfold roundHalfEven
    dsimp only
    split
    · omega
    · split
      · omega
      · omega
  · rw [whole, Nat.mul_comm den] at parts
    unfold roundHalfEven
    dsimp only
    rw [whole]
    split
    · omega
    · split
      · omega
      · omega

theorem isFinite_carry {s : Bool} {m : Nat} {e : Int} :
    (carry s m e).isFinite = true ↔
      if m = Nat.pow 2 53 then e < maxExponent else e ≤ maxExponent := by
  unfold carry
  split
  · split <;> simp [isFinite] <;> omega
  · split <;> simp [isFinite] <;> omega

section Limit

variable {s : Bool} {num den : Nat}

/-- Among the largest numbers a ratio is rounded to 54 bits from the limit on. -/
theorem roundHalfEven_eq_iff_limit (positive : 0 < den)
    (below : (num : ℚ) / den < 2 ^ (maxExponent + 53)) :
    roundHalfEven (scaleRatio num den maxExponent).1 (scaleRatio num den maxExponent).2 =
      Nat.pow 2 53 ↔ (integerLimit : ℚ) ≤ num / den := by
  have scaled := scaleRatio_value num den maxExponent
  have divisor : 0 < (scaleRatio num den maxExponent).2 := scaleRatio_positive positive _
  generalize (scaleRatio num den maxExponent).1 = top, (scaleRatio num den maxExponent).2 = bottom
    at scaled divisor ⊢
  have step : (0 : ℚ) < 2 ^ maxExponent := by positivity
  have whole : (0 : ℚ) < bottom := by exact_mod_cast divisor
  rw [eq_div_iff step.ne'] at scaled
  rw [← scaled, zpow_add₀ (by decide), mul_comm, mul_lt_mul_iff_right₀ step,
    div_lt_iff₀ whole] at below
  have inside : top < Nat.pow 2 53 * bottom := by exact_mod_cast below
  rw [roundHalfEven_eq_iff (by rfl) inside, ← scaled, integerLimit_eq, mul_le_mul_iff_left₀ step,
    le_div_iff₀ whole]
  have cast : 2 * (Nat.pow 2 53 * bottom) ≤ 2 * top + bottom ↔
      2 * (2 ^ 53 * (bottom : ℚ)) ≤ 2 * top + bottom := by exact_mod_cast Iff.rfl
  rw [cast]
  constructor
  · intro half
    linarith
  · intro half
    linarith

/-- Ratios have a finite number nearest to them up to the limit and no further. -/
theorem isFinite_ofRatio (positive : 0 < den) :
    (ofRatio s num den).isFinite = true ↔ (num : ℚ) / den < integerLimit := by
  have step : (0 : ℚ) < 2 ^ maxExponent := by positivity
  by_cases zero : num = 0
  · have some : (0 : ℚ) < integerLimit := by
      rw [integerLimit_eq]
      exact mul_pos (by norm_num) step
    rw [ofRatio, if_pos zero, zero, Nat.cast_zero, zero_div]
    simp only [isFinite, some]
  obtain ⟨above, below⟩ := leadingExponent_bounds zero positive
  simp only [ofRatio, if_neg zero, isFinite_carry]
  rcases lt_trichotomy (leadingExponent num den) maxExponent with less | same | more
  -- Below the last exponent there is room for a carry.
  · have place : max (leadingExponent num den) minExponent < maxExponent := max_lt less (by decide)
    have inside : (num : ℚ) / den < integerLimit :=
      calc (num : ℚ) / den < 2 ^ (leadingExponent num den + 53) := below
        _ ≤ 2 ^ (maxExponent + 52) := zpow_le_zpow_right₀ one_le_two (by omega)
        _ = 2 ^ 52 * 2 ^ maxExponent := by
            rw [zpow_add₀ (by decide), mul_comm]
            rfl
        _ ≤ integerLimit := by
            rw [integerLimit_eq]
            exact mul_le_mul_of_nonneg_right (by norm_num) step.le
    simp only [inside, iff_true]
    split
    · exact place
    · exact place.le
  -- At the last exponent the carry decides.
  · have place : max maxExponent minExponent = maxExponent := rfl
    rw [same] at below
    have carried := roundHalfEven_eq_iff_limit positive below
    rw [same, place]
    split
    · next full => simp only [lt_irrefl, not_lt.mpr (carried.mp full)]
    · next less => simp only [le_refl, lt_of_not_ge fun beyond => less (carried.mpr beyond)]
  -- Beyond it even the smallest significand of 53 bits is too large.
  · have place : max (leadingExponent num den) minExponent = leadingExponent num den :=
      max_eq_left ((by decide : minExponent ≤ maxExponent).trans more.le)
    have beyond : (integerLimit : ℚ) ≤ num / den :=
      calc (integerLimit : ℚ) ≤ 2 ^ 53 * 2 ^ maxExponent := by
            rw [integerLimit_eq]
            exact mul_le_mul_of_nonneg_right (by norm_num) step.le
        _ = 2 ^ (maxExponent + 53) := by
            rw [zpow_add₀ (by decide), mul_comm]
            rfl
        _ ≤ 2 ^ (leadingExponent num den + 52) := zpow_le_zpow_right₀ one_le_two (by omega)
        _ ≤ num / den := above
    simp only [place, not_lt.mpr beyond, iff_false]
    split
    · exact not_lt.mpr more.le
    · exact not_le.mpr more

end Limit

/-- An integer is refused exactly from the limit on. -/
theorem ofInt?_eq (i : Int) :
    ofInt? i = if i.natAbs < integerLimit then .ok (ofInt i) else .error .overflow := by
  have finite : (ofInt i).isFinite = true ↔ i.natAbs < integerLimit := by
    have ratio := @isFinite_ofRatio (decide (i < 0)) i.natAbs 1 Nat.one_pos
    rw [Nat.cast_one, div_one] at ratio
    exact_mod_cast ratio
  unfold ofInt?
  cases rounded : ofInt i with
  | finite s m e =>
      rw [rounded] at finite
      rw [if_pos (finite.mp rfl)]
  | infinite s =>
      rw [rounded] at finite
      rw [if_neg fun inside => Bool.false_ne_true (finite.mpr inside)]
  | nan p =>
      rw [rounded] at finite
      rw [if_neg fun inside => Bool.false_ne_true (finite.mpr inside)]

end CourseAudit.Binary64
