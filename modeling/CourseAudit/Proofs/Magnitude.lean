import CourseAudit.Proofs.Rounding

/-!
How large numbers become. Rounding does not pass a power of two, so that a bound by one is carried
through quotients, products and sums as long as it stays in the range of numbers.
-/
namespace CourseAudit.Binary64

/-- A finite number whose magnitude is at most `q`. -/
def AtMost (q : ℚ) : Binary64 → Prop
  | .finite s m e => |exact s m e| ≤ q
  | _ => False

/-- A number whose magnitude is at least `q`, as that of an infinite one always is. -/
def AtLeast (q : ℚ) : Binary64 → Prop
  | .finite s m e => q ≤ |exact s m e|
  | .infinite _ => True
  | .nan _ => False

/-- The sign makes no difference to the magnitude. -/
theorem abs_exact (s : Bool) (m : Nat) (e : Int) : |exact s m e| = exact false m e := by
  have step : (0 : ℚ) < 2 ^ e := by positivity
  rw [exact, exact, abs_mul, abs_of_pos step]
  cases s <;> simp [signed]

variable {q r : ℚ} {x y : Binary64} {j k : Nat}

/-- Only finite numbers have a bound. -/
theorem AtMost.eq_finite (h : x.AtMost q) :
    ∃ s m e, x = .finite s m e ∧ exact false m e ≤ q := by
  cases x with
  | finite s m e => exact ⟨s, m, e, rfl, abs_exact s m e ▸ h⟩
  | infinite s => exact h.elim
  | nan p => exact h.elim

theorem AtMost.mono (h : x.AtMost q) (more : q ≤ r) : x.AtMost r := by
  obtain ⟨s, m, e, rfl, -⟩ := h.eq_finite
  exact le_trans h more

theorem atMost_zero (nonnegative : 0 ≤ q) (s : Bool) (e : Int) : (finite s 0 e).AtMost q := by
  rw [AtMost, abs_exact, exact_zero]
  exact nonnegative

theorem IsRounded.atMost (h : IsRounded 0 r y) (bound : |r| ≤ q) : y.AtMost q := by
  obtain ⟨n, f, rfl, rfl⟩ := h.exact_eq
  exact bound

section Ratios

variable {s : Bool} {num den : Nat}

/-- A ratio of at most so many steps is rounded to at most so many. -/
theorem roundHalfEven_scaled_le {bound : Nat} {e : Int} (positive : 0 < den)
    (h : (num : ℚ) / den ≤ bound * 2 ^ e) :
    roundHalfEven (scaleRatio num den e).1 (scaleRatio num den e).2 ≤ bound := by
  have scaled := scaleRatio_value num den e
  have whole : 0 < (scaleRatio num den e).2 := scaleRatio_positive positive e
  generalize (scaleRatio num den e).1 = top, (scaleRatio num den e).2 = bottom at scaled whole ⊢
  have step : (0 : ℚ) < 2 ^ e := by positivity
  have divisor : (0 : ℚ) < bottom := by exact_mod_cast whole
  refine roundHalfEven_le whole ?_
  rw [eq_div_iff step.ne'] at scaled
  rw [← scaled, mul_le_mul_iff_left₀ step, div_le_iff₀ divisor] at h
  exact_mod_cast h

/-- A carry that stays in range does not change the value. -/
theorem atMost_carry {m bound : Nat} {e : Int} (finite : (carry s m e).isFinite = true)
    (few : m ≤ bound) (enough : bound * 2 ^ e ≤ q) : (carry s m e).AtMost q := by
  have kept : ∃ n f, carry s m e = .finite s n f ∧ exact s n f = exact s m e := by
    rcases lt_or_ge e maxExponent with inside | last
    · exact carry_eq_finite inside
    · rw [isFinite_carry] at finite
      unfold carry
      split at finite
      · exact absurd finite (not_lt.mpr last)
      · next less => exact ⟨m, e, by rw [if_neg less, if_neg (not_lt.mpr finite)], rfl⟩
  obtain ⟨n, f, carried, same⟩ := kept
  have step : (0 : ℚ) < 2 ^ e := by positivity
  rw [carried, AtMost, same, abs_exact, exact]
  refine (mul_le_mul_of_nonneg_right ?_ step.le).trans enough
  simp only [signed, Bool.false_eq_true, if_false, Int.cast_natCast]
  exact_mod_cast few

/-- A ratio is not rounded beyond a power of two that is in range. -/
theorem atMost_ofRatio (inside : k ≤ 1022) (positive : 0 < den)
    (bound : (num : ℚ) / den ≤ 2 ^ k) : (ofRatio s num den).AtMost (2 ^ k) := by
  by_cases zero : num = 0
  · rw [ofRatio, if_pos zero]
    exact atMost_zero (by positivity) s minExponent
  obtain ⟨above, -⟩ := leadingExponent_bounds zero positive
  have leads : leadingExponent num den + 52 ≤ k := by
    rw [← zpow_natCast] at bound
    exact (zpow_le_zpow_iff_right₀ one_lt_two).mp (above.trans bound)
  have place : max (leadingExponent num den) minExponent ≤ k := by
    unfold minExponent
    omega
  have finite : max (leadingExponent num den) minExponent < maxExponent := by
    unfold minExponent maxExponent
    omega
  simp only [ofRatio, if_neg zero]
  generalize max (leadingExponent num den) minExponent = e at place finite
  -- the power of two is a whole number of steps
  obtain ⟨rest, counted⟩ : ∃ rest : Nat, (k : Int) = rest + e := ⟨(k - e).toNat, by omega⟩
  have power : (2 : ℚ) ^ k = (2 ^ rest : Nat) * 2 ^ e := by
    rw [← zpow_natCast, counted, zpow_add₀ (by decide), zpow_natCast, Nat.cast_pow, Nat.cast_ofNat]
  refine atMost_carry ?_ (roundHalfEven_scaled_le positive (bound.trans_eq power)) power.ge
  rw [isFinite_carry]
  split
  · exact finite
  · exact finite.le

/-- Whatever it is rounded from, a finite number stays below the first power of two that is out of
range. -/
theorem atMost_of_isFinite (positive : 0 < den) (finite : (ofRatio s num den).isFinite = true) :
    (ofRatio s num den).AtMost (2 ^ 1024) := by
  by_cases zero : num = 0
  · rw [ofRatio, if_pos zero]
    exact atMost_zero (by positivity) s minExponent
  obtain ⟨-, below⟩ := leadingExponent_bounds zero positive
  simp only [ofRatio, if_neg zero] at finite ⊢
  have lead := le_max_left (leadingExponent num den) minExponent
  generalize max (leadingExponent num den) minExponent = e at lead finite ⊢
  have last : e ≤ maxExponent := by
    rw [isFinite_carry] at finite
    split at finite
    · exact finite.le
    · exact finite
  have bits : (2 : ℚ) ^ (e + 53) = (2 ^ 53 : Nat) * 2 ^ e := by
    rw [zpow_add₀ (by decide), mul_comm]
    rfl
  have enough : (num : ℚ) / den ≤ (2 ^ 53 : Nat) * 2 ^ e :=
    below.le.trans ((zpow_le_zpow_right₀ one_le_two (by omega)).trans_eq bits)
  refine atMost_carry finite (roundHalfEven_scaled_le positive enough) ?_
  have room : e + 53 ≤ 1024 := by
    unfold maxExponent at last
    omega
  rw [← bits, ← zpow_natCast]
  exact zpow_le_zpow_right₀ one_le_two room

end Ratios

/-- Division by one or more keeps a bound. -/
theorem AtMost.div (hx : x.AtMost (2 ^ k)) (hy : y.AtLeast 1) (inside : k ≤ 1022) :
    (x.div y).AtMost (2 ^ k) := by
  obtain ⟨s, m, e, rfl, bound⟩ := hx.eq_finite
  cases y with
  | nan p => exact hy.elim
  | infinite t => exact atMost_zero (by positivity) (s != t) minExponent
  | finite t n f =>
      rw [AtLeast, abs_exact] at hy
      have divisor : 0 < n := by
        rcases Nat.eq_zero_or_pos n with rfl | some
        · rw [exact_zero] at hy
          exact absurd hy (by norm_num)
        · exact some
      have nonnegative : 0 ≤ exact false m e := abs_exact s m e ▸ abs_nonneg _
      simp only [Binary64.div, if_neg divisor.ne']
      refine atMost_ofRatio inside (Nat.mul_pos (magnitude_positive m _) divisor) ?_
      rw [quotient_ratio]
      exact (div_le_self nonnegative hy).trans bound

theorem AtMost.mul (hx : x.AtMost (2 ^ j)) (hy : y.AtMost (2 ^ k)) (inside : j + k ≤ 1022) :
    (x.mul y).AtMost (2 ^ (j + k)) := by
  obtain ⟨s, m, e, rfl, left⟩ := hx.eq_finite
  obtain ⟨t, n, f, rfl, right⟩ := hy.eq_finite
  refine atMost_ofRatio inside (magnitude_positive _ _) ?_
  rw [product_ratio, pow_add]
  exact mul_le_mul left right (abs_exact t n f ▸ abs_nonneg _) (by positivity)

theorem AtMost.add (hx : x.AtMost (2 ^ k)) (hy : y.AtMost (2 ^ k)) (inside : k + 1 ≤ 1022) :
    (x.add y).AtMost (2 ^ (k + 1)) := by
  obtain ⟨s, m, e, rfl, -⟩ := hx.eq_finite
  obtain ⟨t, n, f, rfl, -⟩ := hy.eq_finite
  dsimp only [Binary64.add]
  split
  · exact atMost_zero (by positivity) (s && t) minExponent
  · refine atMost_ofRatio inside (magnitude_positive _ _) ?_
    rw [sum_ratio, pow_succ, mul_two]
    exact (abs_add_le _ _).trans (add_le_add hx hy)

/-- A sum of any numbers that is finite stays below the first power of two that is out of range. -/
theorem atMost_add (finite : (x.add y).isFinite = true) : (x.add y).AtMost (2 ^ 1024) := by
  cases x with
  | nan p => cases finite
  | infinite s =>
      cases y with
      | nan | finite => cases finite
      | infinite t =>
          dsimp only [Binary64.add] at finite
          split at finite <;> cases finite
  | finite s m e =>
      cases y with
      | nan | infinite => cases finite
      | finite t n f =>
          dsimp only [Binary64.add] at finite ⊢
          split at finite
          · next none =>
              rw [if_pos none]
              exact atMost_zero (by positivity) (s && t) minExponent
          · next some =>
              rw [if_neg some]
              exact atMost_of_isFinite (magnitude_positive _ _) finite

/-- Rounding down keeps a bound that is a whole number. -/
theorem AtMost.natAbs_floor_le {bound : Nat} {i : Int} (h : x.AtMost bound)
    (cut : x.floor? = some i) : i.natAbs ≤ bound := by
  cases x with
  | finite s m e =>
      rw [floor?_finite] at cut
      cases cut
      obtain ⟨low, high⟩ := abs_le.mp h
      have below : (⌊exact s m e⌋ : ℚ) ≤ bound := (Int.floor_le _).trans high
      have above : -(bound : Int) ≤ ⌊exact s m e⌋ := Int.le_floor.mpr (by exact_mod_cast low)
      have most : ⌊exact s m e⌋ ≤ bound := by exact_mod_cast below
      omega
  | infinite | nan => cases cut

/-- No sum is rounded down to an integer beyond that power of two. -/
theorem natAbs_floor_add_le {i : Int} (cut : (x.add y).floor? = some i) : i.natAbs ≤ 2 ^ 1024 := by
  have finite : (x.add y).isFinite = true := by
    cases sum : x.add y with
    | finite => rfl
    | infinite | nan =>
        rw [sum] at cut
        cases cut
  refine AtMost.natAbs_floor_le ?_ cut
  rw [Nat.cast_pow, Nat.cast_ofNat]
  exact atMost_add finite

end CourseAudit.Binary64
