import CourseAudit.Proofs.Fault
import CourseAudit.Value.Coercion

/-!
The orders that comparisons rely on. Numbers other than a not-a-number and calendar dates are each
in a total order, and what counts as a number is finite or infinite, never a not-a-number.
-/
namespace CourseAudit

namespace Binary64

variable {x y : Binary64}

/-- Numbers that are not not-a-number have an order. -/
theorem compare?_total (hx : x.isNan = false) (hy : y.isNan = false) :
    ∃ order, compare? x y = some order := by
  cases x with
  | nan p => cases hx
  | infinite s =>
      cases y with
      | nan p => cases hy
      | infinite t => exact ⟨_, rfl⟩
      | finite t n f => exact ⟨_, rfl⟩
  | finite s m e =>
      cases y with
      | nan p => cases hy
      | infinite t => exact ⟨_, rfl⟩
      | finite t n f => exact ⟨_, rfl⟩

/-- Of two numbers one is less, or they are equal, or one is greater. -/
theorem count_lt_equal_gt (hx : x.isNan = false) (hy : y.isNan = false) :
    [x.lt y, x.equal y, x.gt y].count true = 1 := by
  obtain ⟨order, compared⟩ := compare?_total hx hy
  simp only [lt, equal, gt, compared]
  cases order <;> rfl

theorem le_eq_not_gt (hx : x.isNan = false) (hy : y.isNan = false) : x.le y = !x.gt y := by
  obtain ⟨order, compared⟩ := compare?_total hx hy
  simp only [le, lt, equal, gt, compared]
  cases order <;> rfl

theorem ge_eq_not_lt (hx : x.isNan = false) (hy : y.isNan = false) : x.ge y = !x.lt y := by
  obtain ⟨order, compared⟩ := compare?_total hx hy
  simp only [ge, lt, equal, gt, compared]
  cases order <;> rfl

/-- Rounding gives a finite number, or passes the sign on to an infinite one. -/
theorem carry_cases (s : Bool) (m : Nat) (e : Int) :
    (carry s m e).isFinite = true ∨ carry s m e = .infinite s := by
  unfold carry
  split
  · split
    · exact .inr rfl
    · exact .inl rfl
  · split
    · exact .inr rfl
    · exact .inl rfl

theorem ofRatio_cases (s : Bool) (num den : Nat) :
    (ofRatio s num den).isFinite = true ∨ ofRatio s num den = .infinite s := by
  unfold ofRatio
  split
  · exact .inl rfl
  · exact carry_cases _ _ _

theorem ofDecimal_cases (s : Bool) (digits : Nat) (exponent : Int) :
    (ofDecimal s digits exponent).isFinite = true ∨
      ofDecimal s digits exponent = .infinite s := by
  simp only [ofDecimal]
  split
  · exact .inl rfl
  · split
    · exact .inr rfl
    · split
      · exact ofRatio_cases _ _ _
      · exact ofRatio_cases _ _ _

theorem isFinite_ofInt? {i : Int} (h : ofInt? i = .ok x) : x.isFinite = true := by
  unfold ofInt? at h
  split at h
  · cases h
    rfl
  · cases h

theorem isNan_of_isFinite (finite : x.isFinite = true) : x.isNan = false := by
  cases x with
  | finite s m e => rfl
  | infinite s => rfl
  | nan p => cases finite

end Binary64

theorem Numeral.Parts.isFinite_or_infinite (p : Parts) :
    p.value.isFinite = true ∨ p.value = .infinite p.negative :=
  Binary64.ofDecimal_cases ..

namespace Value

variable {v : Value} {x : Binary64}

/-- Texts and the labels of choices are read as numerals. -/
theorem toNumber_of_asText? {s : String} (text : v.asText? = some s) :
    v.toNumber = .ok (Numeral.read s) := by
  cases v with
  | text s =>
      cases text
      rfl
  | choice c =>
      cases text
      rfl
  | _ => cases text

/-- Whatever else counts as a number counts as a finite one. -/
theorem isFinite_of_toNumber (number : v.asText? = none) (h : v.toNumber = .ok (some x)) :
    x.isFinite = true := by
  cases v with
  | int i =>
      obtain ⟨y, near, same⟩ := map_eq_ok_iff.mp h
      cases same
      exact Binary64.isFinite_ofInt? near
  | float y =>
      rw [toNumber, Except.ok.injEq, Option.ite_none_right_eq_some] at h
      cases h.2
      exact h.1
  | text s => cases number
  | choice c => cases number
  | _ => cases h

/-- What counts as a number is one. -/
theorem isNan_toNumber (h : v.toNumber = .ok (some x)) : x.isNan = false := by
  cases text : v.asText? with
  | none => exact Binary64.isNan_of_isFinite (isFinite_of_toNumber text h)
  | some s =>
      rw [toNumber_of_asText? text, Except.ok.injEq] at h
      obtain ⟨parts, -, rfl⟩ := Option.map_eq_some_iff.mp h
      rcases parts.isFinite_or_infinite with finite | far
      · exact Binary64.isNan_of_isFinite finite
      · rw [far]
        rfl

end Value

namespace CivilDate

theorem day_lt (d : CivilDate) : d.month < 16 ∧ d.day < 32 := by
  obtain ⟨-, -, -, month, -, day⟩ := d.exists_day
  have longest : monthLength d.year d.month ≤ 31 := by
    unfold monthLength
    split
    · split <;> decide
    · split <;> decide
  omega

theorem rank_injective {d e : CivilDate} (h : d.rank = e.rank) : d = e := by
  have hd := d.day_lt
  have he := e.day_lt
  unfold rank at h
  cases d
  cases e
  simp only [mk.injEq] at hd he h ⊢
  omega

theorem count_before_same_after (d e : CivilDate) :
    [d.before e, d == e, e.before d].count true = 1 := by
  by_cases same : d = e
  · subst same
    simp [before]
  · have differ : d.rank ≠ e.rank := fun h => same (rank_injective h)
    rcases Nat.lt_or_gt_of_ne differ with less | more
    · simp [before, same, less, Nat.le_of_lt less]
    · simp [before, same, more, Nat.le_of_lt more]

end CivilDate
end CourseAudit
