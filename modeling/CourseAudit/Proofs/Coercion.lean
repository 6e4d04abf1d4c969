import CourseAudit.Proofs.Magnitude
import CourseAudit.Proofs.Order
import CourseAudit.Proofs.Percent
import CourseAudit.Proofs.Rounding

/-!
Which numbers values count as. An integer or a number counts as a finite one; a text counts as the
number nearest to its numeral, which is infinite from half a step beyond the largest finite number
on. A count within bounds has a share of every whole that is one or more, even of an infinite one.
-/
namespace CourseAudit
open Binary64

namespace Binary64

section Decimals

variable {s : Bool} {digits : Nat} {exponent : Int}

/-- The number of its digits gives the powers of ten around a number. -/
theorem digitCount_bounds (some : digits ≠ 0) :
    (10 : ℚ) ^ ((digitCount digits : Int) - 1) ≤ digits ∧
      (digits : ℚ) < 10 ^ (digitCount digits : Int) := by
  obtain ⟨rest, count⟩ : ∃ rest, digitCount digits = rest + 1 :=
    Nat.exists_eq_succ_of_ne_zero (by
      rw [digitCount, if_neg some]
      exact (List.length_pos_of_ne_nil Nat.toDigits_ne_nil).ne')
  rw [count, Nat.cast_succ, add_sub_cancel_right, ← Nat.cast_succ, zpow_natCast, zpow_natCast]
  constructor
  · have reached : 10 ^ rest ≤ digits := by
      rcases Nat.eq_zero_or_pos rest with rfl | more
      · exact Nat.one_le_iff_ne_zero.mpr some
      · refine not_lt.mp fun less => Nat.not_succ_le_self rest ?_
        exact count.ge.trans ((digitCount_le_iff more).mpr less)
    exact_mod_cast reached
  · exact_mod_cast (digitCount_le_iff (Nat.succ_pos rest)).mp count.le

/-- The place of a decimal gives the powers of ten around what it writes. -/
theorem decimal_bounds (some : digits ≠ 0) :
    (10 : ℚ) ^ (exponent + digitCount digits - 1) ≤ digits * 10 ^ exponent ∧
      (digits : ℚ) * 10 ^ exponent < 10 ^ (exponent + digitCount digits) := by
  obtain ⟨low, high⟩ := digitCount_bounds some
  have step : (0 : ℚ) < 10 ^ exponent := by positivity
  constructor
  · rw [add_sub_assoc, zpow_add₀ (by decide), mul_comm]
    exact mul_le_mul_of_nonneg_right low step.le
  · rw [zpow_add₀ (by decide), mul_comm (10 ^ exponent)]
    exact mul_lt_mul_of_pos_right high step

theorem cast_ten_pow {e : Int} (h : 0 ≤ e) : ((Nat.pow 10 e.toNat : Nat) : ℚ) = 10 ^ e := by
  rw [cast_pow_toNat 10 h, Nat.cast_ofNat]

theorem one_le_integerLimit : 1 ≤ (integerLimit : ℚ) := by
  have some : 1 ≤ integerLimit := by decide +kernel
  exact_mod_cast some

/-- Decimals that are infinite without their power being taken are beyond the limit. -/
theorem integerLimit_le : (integerLimit : ℚ) ≤ 10 ^ (400 : Int) := by
  have inside : integerLimit ≤ Nat.pow 10 (Int.toNat 400) := by decide +kernel
  calc (integerLimit : ℚ) ≤ (Nat.pow 10 (Int.toNat 400) : Nat) := Nat.cast_le.mpr inside
    _ = 10 ^ (400 : Int) := cast_ten_pow (by decide)

/-- A decimal is read as a finite number up to the limit and no further. -/
theorem isFinite_ofDecimal : (ofDecimal s digits exponent).isFinite = true ↔
    (digits : ℚ) * 10 ^ exponent < integerLimit := by
  have least := one_le_integerLimit
  by_cases zero : digits = 0
  · have inside : (0 : ℚ) < integerLimit := lt_of_lt_of_le one_pos least
    have none : ofDecimal s digits exponent = .finite s 0 minExponent := if_pos (.inl zero)
    rw [none, zero, Nat.cast_zero, zero_mul]
    simp only [isFinite, inside]
  obtain ⟨low, high⟩ := @decimal_bounds digits exponent zero
  unfold ofDecimal
  dsimp only
  split
  · next none =>
      have tiny : exponent + digitCount digits ≤ 0 := by omega
      have inside : (digits : ℚ) * 10 ^ exponent < integerLimit :=
        calc (digits : ℚ) * 10 ^ exponent < 10 ^ (exponent + digitCount digits) := high
          _ ≤ 10 ^ (0 : Int) := zpow_le_zpow_right₀ (by norm_num) tiny
          _ = 1 := zpow_zero _
          _ ≤ integerLimit := least
      simp only [isFinite, inside]
  · split
    · next huge =>
        have beyond : (integerLimit : ℚ) ≤ digits * 10 ^ exponent :=
          calc (integerLimit : ℚ) ≤ 10 ^ (400 : Int) := integerLimit_le
            _ ≤ 10 ^ (exponent + digitCount digits - 1) :=
                zpow_le_zpow_right₀ (by norm_num) (by omega)
            _ ≤ digits * 10 ^ exponent := low
        simp only [isFinite, not_lt.mpr beyond, Bool.false_eq_true]
    · split
      · next negative =>
          have positive : 0 < Nat.pow 10 (-exponent).toNat := Nat.pow_pos (by decide)
          rw [isFinite_ofRatio positive, cast_ten_pow (by omega), zpow_neg, div_inv_eq_mul]
      · next whole =>
          rw [isFinite_ofRatio Nat.one_pos, Nat.cast_one, div_one, Nat.cast_mul,
            cast_ten_pow (not_lt.mp whole)]

end Decimals

end Binary64

namespace Numeral

/-- The numeral at the head of a text without outer blanks and commas. -/
def parts? (s : String) : Option Parts :=
  split? ((Text.trimBoth Text.isBlank s.toList).filter (· ≠ ','))

/-- What the digits and the exponent of a numeral write, before it is rounded. -/
def Parts.magnitude (p : Parts) : ℚ :=
  (Text.digitsValue (p.whole ++ p.fraction) : ℚ) * 10 ^ (p.exponent - p.fraction.length)

theorem read_eq (s : String) : read s = (parts? s).map Parts.value := rfl

/-- A numeral below the limit is a finite number, and from the limit on it is infinite. -/
theorem Parts.value_cases (p : Parts) : (p.magnitude < integerLimit → p.value.isFinite = true) ∧
    (integerLimit ≤ p.magnitude → p.value = .infinite p.negative) := by
  have finite : p.value.isFinite = true ↔ p.magnitude < integerLimit := isFinite_ofDecimal
  refine ⟨finite.mpr, fun beyond => ?_⟩
  rcases p.isFinite_or_infinite with near | far
  · exact absurd beyond (not_le.mpr (finite.mp near))
  · exact far

end Numeral

section Shares

variable {count whole : Value} {n t : Binary64}

theorem isZero_eq_false (large : t.AtLeast 1) : t.isZero = false := by
  cases t with
  | nan p => exact large.elim
  | infinite s => rfl
  | finite s m e =>
      rcases Nat.eq_zero_or_pos m with rfl | some
      · rw [AtLeast, abs_exact, exact_zero] at large
        exact absurd large (by norm_num)
      · exact beq_eq_false_iff_ne.mpr some.ne'

/-- A share of one or more is cut from a number in range. -/
theorem percentOf_total (counted : count.toNumber = .ok (some n))
    (measured : whole.toNumber = .ok (some t)) (small : n.AtMost (10 ^ 300))
    (large : t.AtLeast 1) : ∃ k, percentOf count whole = .ok (some k) := by
  have thousand : (10 : ℚ) ^ 300 ≤ 2 ^ 1000 :=
    calc (10 : ℚ) ^ 300 = (10 ^ 3) ^ 100 := pow_mul 10 3 100
      _ ≤ (2 ^ 10) ^ 100 := pow_le_pow_left₀ (by norm_num) (by norm_num) 100
      _ = 2 ^ 1000 := (pow_mul 2 10 100).symm
  have hundred : (ofInt 100).AtMost (2 ^ 7) := by
    have exact := @isRounded_ofInt 100 (by decide)
    exact exact.atMost (by norm_num)
  have half : half.AtMost (2 ^ 1007) :=
    (isRounded_half.atMost (by norm_num : |(1 / 2 : ℚ)| ≤ 2 ^ 0)).mono
      (pow_le_pow_right₀ one_le_two (by decide))
  -- a thousand bits, seven more for the percentage and one for the half stay in range
  have raised := (((small.mono thousand).div large (by decide)).mul hundred (by decide)).add half
    (by decide)
  obtain ⟨s, m, e, same, -⟩ := raised.eq_finite
  rw [percentOf_eq counted measured (isZero_eq_false large), same, floor, floor?_finite]
  exact ⟨_, rfl⟩

/-- Nothing is cut from an infinite share. -/
theorem percentOf_infinite {s : Bool} (counted : count.toNumber = .ok (some (.infinite s)))
    (measured : whole.toNumber = .ok (some t)) (some : t.isZero = false) :
    ∃ fault, percentOf count whole = .error fault := by
  have hundred : ofInt 100 = .finite false (25 * 2 ^ 48) (-46) := by decide +kernel
  rw [percentOf_eq counted measured some, hundred, half_eq]
  cases t with
  | nan p => exact ⟨_, rfl⟩
  | infinite t => exact ⟨_, rfl⟩
  | finite t m e => exact ⟨_, rfl⟩

end Shares

namespace Value

variable {v : Value} {x : Binary64}

/-- A text counts as its numeral, which is finite below the limit and infinite from there on. -/
theorem numeral_of_toNumber {s : String} (text : v.asText? = some s)
    (h : v.toNumber = .ok (some x)) : ∃ p, Numeral.parts? s = some p ∧
      (p.magnitude < integerLimit → x.isFinite = true) ∧
        (integerLimit ≤ p.magnitude → x = .infinite p.negative) := by
  rw [toNumber_of_asText? text, Numeral.read_eq, Except.ok.injEq] at h
  obtain ⟨p, read, rfl⟩ := Option.map_eq_some_iff.mp h
  exact ⟨p, read, p.value_cases⟩

/-- The number that a value counts as. It is finite unless the value is a text whose numeral reaches
the limit of all numbers. Up to `10 ^ 300` it has a share, in percent, of whatever counts as one or
more; the share of an infinite number is a fault unless the whole is zero. -/
structure CountsAs (v : Value) (x : Binary64) : Prop where
  number : v.asText? = none → x.isFinite = true
  text : ∀ s, v.asText? = some s → ∃ p, Numeral.parts? s = some p ∧
    (p.magnitude < integerLimit → x.isFinite = true) ∧
      (integerLimit ≤ p.magnitude → x = .infinite p.negative)
  share : ∀ whole t, whole.toNumber = .ok (some t) → x.AtMost (10 ^ 300) → t.AtLeast 1 →
    ∃ k, percentOf v whole = .ok (some k)
  lost : x.isFinite = false → ∀ whole t, whole.toNumber = .ok (some t) → t.isZero = false →
    ∃ fault, percentOf v whole = .error fault

theorem countsAs_of_toNumber (h : v.toNumber = .ok (some x)) : v.CountsAs x where
  number number := isFinite_of_toNumber number h
  text _ text := numeral_of_toNumber text h
  share _ _ measured small large := percentOf_total h measured small large
  lost beyond whole t measured some := by
    cases text : v.asText? with
    | none => exact absurd beyond (by simp [isFinite_of_toNumber text h])
    | some s =>
        obtain ⟨p, -, near, far⟩ := numeral_of_toNumber text h
        rcases lt_or_ge p.magnitude integerLimit with below | above
        · exact absurd beyond (by simp [near below])
        · exact percentOf_infinite (far above ▸ h) measured some

/-- A number before a word has a share even of a text that is infinite. -/
theorem countsAs_students : (text "12,345 students").toNumber =
      .ok (some (.finite false (12345 * 2 ^ 39) (-39))) ∧
    (text "1e400").toNumber = .ok (some (.infinite false)) ∧
      (text "12,345 students").CountsAs (.finite false (12345 * 2 ^ 39) (-39)) ∧
        ∃ k, percentOf (text "12,345 students") (text "1e400") = .ok (some k) := by
  have counted : (text "12,345 students").toNumber =
      .ok (some (.finite false (12345 * 2 ^ 39) (-39))) := by decide +kernel
  have measured : (text "1e400").toNumber = .ok (some (.infinite false)) := by decide +kernel
  have exact : AtMost (10 ^ 5) (.finite false (12345 * 2 ^ 39) (-39)) := by
    norm_num [AtMost, Binary64.exact, signed]
  have small := exact.mono (pow_le_pow_right₀ (by norm_num) (by decide : 5 ≤ 300))
  have counts := countsAs_of_toNumber counted
  exact ⟨counted, measured, counts, counts.share _ _ measured small trivial⟩

/-- A text of a number of four hundred zeros counts, but as no finite number. -/
theorem toNumber_unusable : ¬ ∀ v x, toNumber v = .ok (some x) → x.isFinite = true := by
  intro finite
  have counted : (text "1e400").toNumber = .ok (some (.infinite false)) := by decide +kernel
  cases finite _ _ counted

end Value
end CourseAudit
