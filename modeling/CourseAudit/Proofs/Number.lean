import CourseAudit.Number.Binary64
import Mathlib.Algebra.Order.Field.Power
import Mathlib.Data.Rat.Cast.Order
import Mathlib.Tactic.Ring

/-!
The exact rational number behind a finite binary one. Two finite numbers are equal, and a finite
number is an integer, when the rational numbers behind them say so, whatever their exponents are.
-/
namespace CourseAudit.Binary64

def signed (negative : Bool) (magnitude : Nat) : Int := if negative then -magnitude else magnitude

/-- The number that a sign, a significand and an exponent stand for. -/
def exact (negative : Bool) (significand : Nat) (exponent : Int) : ℚ :=
  signed negative significand * 2 ^ exponent

theorem signed_mul (s : Bool) (m n : Nat) : signed s (m * n) = signed s m * n := by
  cases s <;> simp [signed]

theorem two_pow_toNat {e : Int} (h : 0 ≤ e) : (((2 : Int) ^ e.toNat : Int) : ℚ) = 2 ^ e := by
  have hcast : ((e.toNat : Nat) : Int) = e := Int.toNat_of_nonneg h
  rw [Int.cast_pow, Int.cast_ofNat, ← zpow_natCast, hcast]

/-- Units of a smaller power of two count the same number. -/
theorem unitsAt_eq_exact {base e : Int} (h : base ≤ e) (s : Bool) (m : Nat) :
    (unitsAt base s m e : ℚ) * 2 ^ base = exact s m e := by
  have hunits : unitsAt base s m e = signed s m * 2 ^ (e - base).toNat := by
    have hcast : ((2 ^ (e - base).toNat : Nat) : Int) = 2 ^ (e - base).toNat := by norm_cast
    rw [← hcast, ← signed_mul]
    rfl
  rw [hunits, Int.cast_mul, two_pow_toNat (by omega), mul_assoc,
    ← zpow_add₀ (by decide : (2 : ℚ) ≠ 0)]
  unfold exact
  congr 2
  omega

theorem equal_finite_iff {s t : Bool} {m n : Nat} {e f : Int} :
    (finite s m e).equal (finite t n f) = true ↔ exact s m e = exact t n f := by
  rw [← unitsAt_eq_exact (min_le_left e f) s m, ← unitsAt_eq_exact (min_le_right e f) t n,
    mul_left_inj' (zpow_ne_zero _ (by decide)), Int.cast_inj]
  simp [equal, compare?]

theorem exact_of_nonneg {e : Int} (h : 0 ≤ e) (s : Bool) (m : Nat) :
    exact s m e = ((signed s m * 2 ^ e.toNat : Int) : ℚ) := by
  rw [Int.cast_mul, two_pow_toNat h]
  rfl

/-- A negative exponent divides. -/
theorem exact_eq_iff_of_neg {e : Int} (h : e < 0) (s : Bool) (m : Nat) (i : Int) :
    exact s m e = i ↔ signed s m = i * 2 ^ (-e).toNat := by
  have hinv : (2 : ℚ) ^ e * 2 ^ (-e) = 1 := by
    rw [← zpow_add₀ (by decide : (2 : ℚ) ≠ 0), add_neg_cancel, zpow_zero]
  rw [← mul_left_inj' (zpow_ne_zero (-e) (by decide : (2 : ℚ) ≠ 0)), exact, mul_assoc, hinv,
    mul_one, ← two_pow_toNat (by omega), ← Int.cast_mul, Int.cast_inj]

/-- The integer read from a number is the number behind it, and only integers have one. -/
theorem toInt?_finite_iff {s : Bool} {m : Nat} {e i : Int} :
    (finite s m e).toInt? = some i ↔ exact s m e = i := by
  by_cases h : 0 ≤ e
  · have hwhole : (finite s m e).toInt? = some (signed s (m * 2 ^ e.toNat)) := by
      simp [toInt?, isWhole, truncate?, magnitude, signed, h, not_lt.mpr h]
    rw [hwhole, exact_of_nonneg h, Int.cast_inj, signed_mul, Option.some_inj]
    norm_cast
  · have hneg : e < 0 := by omega
    rw [exact_eq_iff_of_neg hneg]
    by_cases hdvd : 2 ^ (-e).toNat ∣ m
    · obtain ⟨q, rfl⟩ := hdvd
      have hwhole : (finite s (2 ^ (-e).toNat * q) e).toInt? = some (signed s q) := by
        simp [toInt?, isWhole, truncate?, magnitude, signed, hneg]
      rw [hwhole, mul_comm, signed_mul, Option.some_inj]
      push_cast
      rw [mul_left_inj' (pow_ne_zero _ (by decide))]
    -- The power would have to divide the significand of an integer.
    · have hpart : (finite s m e).toInt? = none := by
        have hrem : m % 2 ^ (-e).toNat ≠ 0 := fun hr => hdvd (Nat.dvd_of_mod_eq_zero hr)
        simp [toInt?, isWhole, h, hrem]
      rw [hpart]
      constructor
      · intro hnone
        cases hnone
      · intro hi
        have habs : m = i.natAbs * 2 ^ (-e).toNat := by
          have := congrArg Int.natAbs hi
          cases s <;> simpa [signed, Int.natAbs_mul, Int.natAbs_pow] using this
        exact absurd ⟨i.natAbs, by rw [mul_comm]; exact habs⟩ hdvd

end CourseAudit.Binary64
