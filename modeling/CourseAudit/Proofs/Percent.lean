import CourseAudit.Proofs.Decimal
import CourseAudit.Proofs.Fault
import CourseAudit.Proofs.Precision
import CourseAudit.Value.Coercion
import Mathlib.Tactic.FieldSimp

/-!
Shares in percent. The exact share is divided, scaled and raised by a half in binary numbers, so
that it is rounded three times before it is cut. As long as the numbers are not too large this is
rounding half up, except that a tie may fall below itself and be rounded down.
-/
namespace CourseAudit
open Binary64

/-- The whole number nearest to a share in percent, the upper one on a tie. -/
def nearestPercent (count whole : Nat) : Nat := (200 * count + whole) / (2 * whole)

/-- A share in percent that lies half-way between two whole numbers. -/
def IsTie (count whole : Nat) : Prop := 2 * whole ∣ 200 * count + whole

/-- What is cut to give a share in percent: the exact share and a half. -/
def raisedShare (count whole : Nat) : ℚ := count / whole * 100 + 1 / 2

theorem half_eq : half = finite false (2 ^ 52) (-53) := by decide +kernel

theorem isRounded_half : IsRounded 0 (1 / 2) half := by
  refine ⟨2 ^ 52, -53, half_eq, ?_⟩
  norm_num [exact, signed]

theorem toNumber_natural {n : Nat} (small : n < 2 ^ 53) :
    (Value.int n).toNumber = .ok (some (ofInt n)) := by
  obtain ⟨m, e, finite, -⟩ := isRounded_ofInt small
  simp only [Value.toNumber, ofInt?, finite]
  rfl

/-- The decimal text of a natural number counts as the number. -/
theorem toNumber_decimal {n : Nat} (small : n < 2 ^ 53) :
    (Value.text (toString n)).toNumber = .ok (some (ofInt n)) := by
  have short : digitCount n ≤ 16 :=
    (digitCount_le_iff (by decide)).mpr (small.trans (by norm_num))
  exact congrArg Except.ok (Numeral.read_natural (by omega))

theorem percentOf_eq {count whole : Value} {n t : Binary64}
    (counted : count.toNumber = .ok (some n)) (measured : whole.toNumber = .ok (some t))
    (some : t.isZero = false) :
    percentOf count whole = ((((n.div t).mul (ofInt 100)).add half).floor).map .some := by
  simp only [percentOf, counted, measured, ok_bind, some, Bool.false_eq_true, if_false]
  cases (((n.div t).mul (ofInt 100)).add half).floor <;> rfl

theorem isModerate_of_bounds {q : ℚ} (least : q = 0 ∨ 1 / 2 ^ 53 ≤ q) (most : q ≤ 2 ^ 60) :
    IsModerate q := by
  refine least.imp id fun tiny => ⟨?_, ?_⟩
  · exact le_trans (by norm_num) tiny
  · exact most.trans (by norm_num)

section Share

variable {count whole : Nat} (smallCount : count < 2 ^ 53) (smallWhole : whole < 2 ^ 53)
  (positive : 0 < whole)

include smallCount smallWhole positive

/-- Three roundings lead from the exact share and a half to the number that is cut. -/
theorem isRounded_share : IsRounded 3 (raisedShare count whole)
    ((((ofInt count).div (ofInt whole)).mul (ofInt 100)).add half) := by
  have divisor : (0 : ℚ) < whole := by exact_mod_cast positive
  have countMost : (count : ℚ) < 2 ^ 53 := by exact_mod_cast smallCount
  have wholeMost : (whole : ℚ) < 2 ^ 53 := by exact_mod_cast smallWhole
  have wholeLeast : (1 : ℚ) ≤ whole := by exact_mod_cast positive
  have most : (count : ℚ) / whole ≤ 2 ^ 53 := by
    rw [div_le_iff₀ divisor]
    linarith
  have least : (count : ℚ) / whole = 0 ∨ 1 / 2 ^ 53 ≤ (count : ℚ) / whole := by
    rcases Nat.eq_zero_or_pos count with rfl | some
    · exact .inl (by simp)
    · have one : (1 : ℚ) ≤ count := by exact_mod_cast some
      refine .inr ?_
      rw [le_div_iff₀ divisor]
      linarith
  have nonnegative : 0 ≤ (count : ℚ) / whole := by positivity
  have hundred : IsRounded 0 (100 : Nat) (ofInt 100) := isRounded_ofInt (by decide)
  rw [Nat.cast_ofNat] at hundred
  have divided := (isRounded_ofInt smallCount).div (by decide) (isRounded_ofInt smallWhole) divisor
    (isModerate_of_bounds least (by linarith))
  have scaled := divided.mul (by decide) hundred (by norm_num)
    (isModerate_of_bounds (least.imp (by simp +contextual) (by intro; linarith)) (by linarith))
  exact scaled.add (by decide) isRounded_half (by positivity) (by norm_num)
    (isModerate_of_bounds (.inr (by linarith)) (by linarith))

/-- A share in percent has a value, which is off the exact one by less than one and by no more than
three roundings make. -/
theorem percent_near : ∃ k : Int,
    ((((ofInt count).div (ofInt whole)).mul (ofInt 100)).add half).floor = .ok k ∧
      (k : ℚ) ≤ raisedShare count whole * (1 + 1 / 2 ^ 51) ∧
        raisedShare count whole * (1 - 1 / 2 ^ 51) < k + 1 := by
  obtain ⟨m, e, finite, low, high⟩ := isRounded_share smallCount smallWhole positive
  have nonnegative : 0 ≤ raisedShare count whole := by unfold raisedShare; positivity
  refine ⟨⌊exact false m e⌋, ?_, ?_, ?_⟩
  · rw [finite, floor, floor?_finite]
  · calc (⌊exact false m e⌋ : ℚ) ≤ exact false m e := Int.floor_le _
      _ ≤ raisedShare count whole * (1 + roundoff) ^ 3 := high
      _ ≤ raisedShare count whole * (1 + 1 / 2 ^ 51) :=
          mul_le_mul_of_nonneg_left (by norm_num [roundoff]) nonnegative
  · calc raisedShare count whole * (1 - 1 / 2 ^ 51)
        ≤ raisedShare count whole * (1 - roundoff) ^ 3 :=
          mul_le_mul_of_nonneg_left (by norm_num [roundoff]) nonnegative
      _ ≤ exact false m e := low
      _ < ⌊exact false m e⌋ + 1 := Int.lt_floor_add_one _

end Share

/-- What less than the 2^51st part is off cannot pass a whole number, unless it starts from one. -/
theorem eq_or_tie_of_near {k : Int} {num den : Nat} (some : 0 < num) (positive : 0 < den)
    (small : num < 2 ^ 51) (notAbove : (k : ℚ) ≤ num / den * (1 + 1 / 2 ^ 51))
    (notBelow : (num : ℚ) / den * (1 - 1 / 2 ^ 51) < k + 1) :
    k = (num / den : Nat) ∨ den ∣ num ∧ k + 1 = (num / den : Nat) := by
  have divisor : (0 : ℚ) < den := by exact_mod_cast positive
  have most : (num : ℚ) < 2 ^ 51 := by exact_mod_cast small
  have below : k * den ≤ num := by
    rw [div_mul_eq_mul_div, le_div_iff₀ divisor] at notAbove
    have whole : (k : ℚ) * den < num + 1 := by linarith
    exact Int.lt_add_one_iff.mp (by exact_mod_cast whole)
  have above : (num : Int) ≤ (k + 1) * den := by
    rw [div_mul_eq_mul_div, div_lt_iff₀ divisor] at notBelow
    have whole : (num : ℚ) < (k + 1) * den + 1 := by linarith
    exact Int.lt_add_one_iff.mp (by exact_mod_cast whole)
  have natural : 0 ≤ k := by
    by_contra negative
    have least : (k + 1) * den ≤ 0 := Int.mul_nonpos_of_nonpos_of_nonneg (by omega) (by omega)
    omega
  lift k to Nat using natural
  norm_cast at below above ⊢
  rcases Nat.lt_or_eq_of_le above with inside | tie
  · exact .inl (Nat.div_eq_of_lt_le below inside).symm
  · refine .inr ⟨Dvd.intro_left _ tie.symm, ?_⟩
    rw [tie, Nat.mul_div_cancel _ positive]

/-- How a share in percent is rounded, whether the whole is given as a number or as a text. It is
never off by more than one and what three roundings make; with fewer than 51 bits it is rounded half
up, or it is a tie that has been rounded down. -/
structure IsPercent (count whole : Nat) (k : Int) : Prop where
  ofNumber : percentOf (.int count) (.int whole) = .ok (some k)
  ofText : percentOf (.int count) (.text (toString whole)) = .ok (some k)
  notAbove : (k : ℚ) ≤ raisedShare count whole * (1 + 1 / 2 ^ 51)
  notBelow : raisedShare count whole * (1 - 1 / 2 ^ 51) < k + 1
  nearest : 200 * count + whole < 2 ^ 51 →
    k = nearestPercent count whole ∨ IsTie count whole ∧ k + 1 = nearestPercent count whole

theorem percentOf_nearest {count whole : Nat} (smallCount : count < 2 ^ 53)
    (smallWhole : whole < 2 ^ 53) (positive : 0 < whole) : ∃ k, IsPercent count whole k := by
  obtain ⟨k, cut, notAbove, notBelow⟩ := percent_near smallCount smallWhole positive
  have divisor : (0 : ℚ) < whole := by exact_mod_cast positive
  have nonzero : (ofInt whole).isZero = false := by
    obtain ⟨n, f, finite, value⟩ := (isRounded_ofInt smallWhole).exact_eq
    rw [finite]
    rcases Nat.eq_zero_or_pos n with rfl | some
    · rw [exact_zero] at value
      exact absurd value divisor.ne
    · exact beq_eq_false_iff_ne.mpr some.ne'
  have answered {v : Value} (measured : v.toNumber = .ok (some (ofInt whole))) :
      percentOf (.int count) v = .ok (some k) := by
    rw [percentOf_eq (toNumber_natural smallCount) measured nonzero, cut]
    rfl
  refine ⟨k, answered (toNumber_natural smallWhole), answered (toNumber_decimal smallWhole),
    notAbove, notBelow, fun small => ?_⟩
  have share : raisedShare count whole = (200 * count + whole : Nat) / (2 * whole : Nat) := by
    unfold raisedShare
    push_cast
    field_simp
    ring
  rw [share] at notAbove notBelow
  exact eq_or_tie_of_near (by omega) (by omega) small notAbove notBelow

/-- Two of three, by number and by text. -/
theorem percentOf_twoOfThree : 2 < 2 ^ 53 ∧ 3 < 2 ^ 53 ∧ 0 < 3 ∧
    percentOf (.int 2) (.int 3) = .ok (some 67) ∧
      percentOf (.int 2) (.text (toString 3)) = .ok (some 67) := by
  obtain ⟨k, percent⟩ := @percentOf_nearest 2 3 (by decide) (by decide) (by decide)
  have known : k = 67 := by
    rcases percent.nearest (by decide) with near | ⟨tie, -⟩
    · exact near
    · exact absurd tie (by unfold IsTie; decide)
  rw [← known]
  exact ⟨by decide, by decide, by decide, percent.ofNumber, percent.ofText⟩

/-- Of forty, twenty-three are 57.5 percent, but are rounded down. -/
theorem percentOf_tie_down : ¬ ∀ count whole : Nat, count < 2 ^ 53 → whole < 2 ^ 53 → 0 < whole →
    percentOf (.int count) (.int whole) = .ok (some (nearestPercent count whole)) := by
  intro rounded
  have down : percentOf (.int 23) (.int 40) = .ok (some 57) := by decide +kernel
  cases down.symm.trans (rounded 23 40 (by decide) (by decide) (by decide))

end CourseAudit
