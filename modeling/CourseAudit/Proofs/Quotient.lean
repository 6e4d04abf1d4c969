import CourseAudit.Proofs.Number
import Mathlib.Data.Rat.Floor
import Mathlib.Tactic.Positivity

/-!
Quotients of natural numbers, rounded to a binary number and then up to a whole one. A dividend of
at most 53 bits is rounded so little that no whole number is passed on the way, except that a
quotient near zero may become zero.
-/
namespace CourseAudit.Binary64

theorem fdiv_eq_floor (num : Int) (den : Nat) : num.fdiv den = ⌊(num : ℚ) / den⌋ := by
  rw [Rat.floor_intCast_div_natCast]
  exact Int.fdiv_eq_ediv_of_nonneg num (Int.natCast_nonneg den)

theorem signed_not (s : Bool) (n : Nat) : signed (!s) n = -signed s n := by
  cases s <;> simp [signed]

theorem cast_pow_toNat (base : Nat) {e : Int} (h : 0 ≤ e) :
    ((Nat.pow base e.toNat : Nat) : ℚ) = (base : ℚ) ^ e := by
  have places : ((e.toNat : Nat) : Int) = e := Int.toNat_of_nonneg h
  conv_rhs => rw [← places, zpow_natCast]
  exact Nat.cast_pow base _

theorem cast_two_pow {e : Int} (h : 0 ≤ e) : ((Nat.pow 2 e.toNat : Nat) : ℚ) = 2 ^ e := by
  rw [cast_pow_toNat 2 h, Nat.cast_ofNat]

/-- The ratio of a magnitude is the number itself. -/
theorem magnitude_eq_exact (s : Bool) (m : Nat) (e : Int) :
    (signed s (magnitude m e).1 : ℚ) / (magnitude m e).2 = exact s m e := by
  unfold magnitude exact
  split
  · next negative =>
      rw [cast_two_pow (by omega), zpow_neg, div_inv_eq_mul]
  · next nonnegative =>
      rw [signed_mul, Int.cast_mul, Int.cast_natCast, cast_two_pow (by omega), Nat.cast_one,
        div_one]

/-- Rounding up gives the least integer that is not below the number. -/
theorem ceil?_finite {s : Bool} {m : Nat} {e : Int} :
    (finite s m e).ceil? = some ⌈exact s m e⌉ := by
  have floor : (finite (!s) m e).floor? =
      some ((signed (!s) (magnitude m e).1).fdiv (magnitude m e).2) := rfl
  have turned : exact (!s) m e = -exact s m e := by
    rw [exact, exact, signed_not, Int.cast_neg, neg_mul]
  simp only [ceil?, neg, floor, fdiv_eq_floor, magnitude_eq_exact, turned, Option.map_some,
    Int.floor_neg, neg_neg]

/-- Rounding does not pass a whole number from below. -/
theorem roundHalfEven_le {num den bound : Nat} (positive : 0 < den) (h : num ≤ bound * den) :
    roundHalfEven num den ≤ bound := by
  have parts := Nat.div_add_mod num den
  have inside : num / den ≤ bound := Nat.div_le_of_le_mul (by rwa [Nat.mul_comm])
  unfold roundHalfEven
  dsimp only
  rcases Nat.lt_or_eq_of_le inside with less | same
  · split
    · omega
    · split
      · omega
      · omega
  · rw [same, Nat.mul_comm] at parts
    rw [if_pos (by omega)]
    exact inside

/-- More than half a step above a whole number, rounding stays above it. -/
theorem lt_roundHalfEven {num den bound : Nat} (positive : 0 < den)
    (h : 2 * (bound * den) + den < 2 * num) : bound < roundHalfEven num den := by
  have parts := Nat.div_add_mod num den
  have inside : bound ≤ num / den := (Nat.le_div_iff_mul_le positive).mpr (by omega)
  unfold roundHalfEven
  dsimp only
  rcases Nat.lt_or_eq_of_le inside with more | same
  · split
    · exact more
    · split
      · omega
      · omega
  · rw [← same, Nat.mul_comm] at parts
    rw [if_neg (by omega), if_pos (by omega)]
    omega

/-- Carrying to the next exponent keeps the number. -/
theorem carry_eq_finite {s : Bool} {m : Nat} {e : Int} (h : e < maxExponent) :
    ∃ n f, carry s m e = finite s n f ∧ exact s n f = exact s m e := by
  unfold carry
  split
  · next full =>
      refine ⟨_, _, if_neg (by omega), ?_⟩
      have double : Nat.pow 2 53 = Nat.pow 2 52 * 2 := rfl
      rw [full, double, exact, exact, signed_mul, zpow_add_one₀ (by decide)]
      push_cast
      ring
  · exact ⟨_, _, if_neg (by omega), rfl⟩

section Quotient

variable {num den : Nat}

/-- How many places behind the point a quotient is rounded at. -/
def quotientPlaces (num den : Nat) : Nat := (-(max (leadingExponent num den) minExponent)).toNat

/-- A dividend of at most 53 bits is not rounded before the point. -/
theorem exponent_eq_neg_places (small : num < 2 ^ 53) (some : num ≠ 0) :
    max (leadingExponent num den) minExponent = -(quotientPlaces num den : Int) := by
  have bits : num.log2 ≤ 52 := Nat.le_of_lt_succ ((Nat.log2_lt some).mpr small)
  have behind : max (leadingExponent num den) minExponent ≤ 0 := by
    unfold leadingExponent minExponent
    dsimp only
    split
    · omega
    · omega
  unfold quotientPlaces
  omega

/-- A quotient of one or more is rounded as many places behind the point as its divisor has bits. -/
theorem divisor_lt_places (small : num < 2 ^ 53) (some : num ≠ 0) (positive : 0 < den)
    (least : den ≤ num) : den < 2 * 2 ^ quotientPlaces num den := by
  have bits : num.log2 ≤ 52 := Nat.le_of_lt_succ ((Nat.log2_lt some).mpr small)
  have fewer : den.log2 ≤ num.log2 :=
    (Nat.le_log2 some).mpr ((Nat.log2_self_le positive.ne').trans least)
  have deep : den.log2 ≤ quotientPlaces num den := by
    unfold quotientPlaces leadingExponent minExponent
    dsimp only
    split
    · omega
    · omega
  rw [← pow_succ']
  exact Nat.lt_log2_self.trans_le (Nat.pow_le_pow_right (by decide) (Nat.succ_le_succ deep))

/-- The quotient of a small dividend is a finite number: the dividend with its places, divided,
rounded and put back behind the point. -/
theorem ofRatio_eq_finite (small : num < 2 ^ 53) (some : num ≠ 0) :
    ∃ m e, ofRatio false num den = finite false m e ∧ exact false m e =
      (roundHalfEven (num * 2 ^ quotientPlaces num den) den : ℚ) / 2 ^ quotientPlaces num den := by
  have places := @exponent_eq_neg_places num den small some
  have scaled : scaleRatio num den (-(quotientPlaces num den : Int)) =
      (num * 2 ^ quotientPlaces num den, den) := by
    unfold scaleRatio
    split
    · rw [neg_neg, Int.toNat_natCast]
      rfl
    · next whole =>
        have none : quotientPlaces num den = 0 := by omega
        simp [none]
  obtain ⟨m, e, carried, same⟩ := @carry_eq_finite false
    (roundHalfEven (num * 2 ^ quotientPlaces num den) den) (-(quotientPlaces num den : Int))
    (by unfold maxExponent; omega)
  refine ⟨m, e, ?_, ?_⟩
  · simp only [ofRatio, if_neg some, places, scaled, carried]
  · rw [same, exact, zpow_neg, zpow_natCast, div_eq_mul_inv]
    simp [signed]

/-- However many places are kept, a quotient is not rounded over a whole number. -/
theorem rounded_le {bound : Nat} (places : Nat) (positive : 0 < den) (enough : num ≤ bound * den) :
    roundHalfEven (num * 2 ^ places) den ≤ bound * 2 ^ places := by
  apply roundHalfEven_le positive
  rw [Nat.mul_right_comm]
  exact Nat.mul_le_mul_right _ enough

/-- With as many places as the divisor has bits, it is not rounded down to one either. -/
theorem lt_rounded {bound places : Nat} (positive : 0 < den) (deep : den < 2 * 2 ^ places)
    (more : bound * den < num) : bound * 2 ^ places < roundHalfEven (num * 2 ^ places) den := by
  have wider := Nat.mul_le_mul_right (2 ^ places) (Nat.succ_le_of_lt more)
  rw [Nat.succ_mul, Nat.mul_right_comm] at wider
  apply lt_roundHalfEven positive
  omega

/-- A small dividend divided and rounded up gives the least whole number that is not below the
quotient, as far as nothing less than one is asked for. -/
theorem ceil?_ofRatio (small : num < 2 ^ 53) (positive : 0 < den) :
    ∃ c : Int, (ofRatio false num den).ceil? = some c ∧
      max 1 c.toNat = max 1 ⌈(num : ℚ) / den⌉₊ := by
  by_cases zero : num = 0
  · refine ⟨0, ?_, ?_⟩
    · rw [ofRatio, if_pos zero, ceil?_finite]
      simp [exact, signed]
    · simp [zero]
  obtain ⟨m, e, finite, value⟩ := @ofRatio_eq_finite num den small zero
  refine ⟨⌈exact false m e⌉, by rw [finite, ceil?_finite], ?_⟩
  have step : (0 : ℚ) < 2 ^ quotientPlaces num den := by positivity
  have divisor : (0 : ℚ) < den := by exact_mod_cast positive
  generalize least : ⌈(num : ℚ) / den⌉₊ = bound
  have below : ⌈exact false m e⌉ ≤ bound := by
    have enough : (num : ℚ) / den ≤ bound := Nat.ceil_le.mp least.le
    rw [div_le_iff₀ divisor] at enough
    rw [Int.ceil_le, value, div_le_iff₀ step]
    exact_mod_cast rounded_le _ positive (by exact_mod_cast enough)
  rcases Nat.lt_or_ge bound 2 with one | several
  · omega
  obtain ⟨before, rfl⟩ : ∃ before, bound = before + 1 := ⟨bound - 1, by omega⟩
  have more : before * den < num := by
    have above : (before : ℚ) < num / den := Nat.lt_ceil.mp (by omega)
    rw [lt_div_iff₀ divisor] at above
    exact_mod_cast above
  have deep : den < 2 * 2 ^ quotientPlaces num den :=
    divisor_lt_places small zero positive ((Nat.le_mul_of_pos_left den (by omega)).trans more.le)
  have reached : (before : Int) < ⌈exact false m e⌉ := by
    rw [Int.lt_ceil, value, lt_div_iff₀ step]
    exact_mod_cast lt_rounded positive deep more
  omega

end Quotient

end CourseAudit.Binary64
