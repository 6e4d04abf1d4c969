import CourseAudit.Proofs.IntegerConditions
import CourseAudit.Proofs.Obstacle
import CourseAudit.Value.Equality

/-!
What is displayed is what is compared. A value is equal to the text that shows it; numbers that are
integers are shown by the decimal texts of these, so that being equal, being equal to what is shown,
and being shown alike are the same.
-/
namespace CourseAudit

namespace Value
open Binary64

variable {v w : Value} {i j : Int}

/-- The integer that a number is. -/
def integer? : Value → Option Int
  | .int i => some i
  | .float x => x.toInt?
  | _ => none

/-- A number that is an integer of magnitude at most 2 ^ 53. -/
def IsSmallInteger (v : Value) : Prop := ∃ i, v.integer? = some i ∧ i.natAbs ≤ 2 ^ 53

/-- Values that are compared by what they show. -/
inductive IsShown : Value → Prop
  | bool (b : Bool) : IsShown (.bool b)
  | text {v : Value} {s : String} (text : v.asText? = some s) : IsShown v
  | integer {v : Value} (small : v.IsSmallInteger) : IsShown v

theorem writes_of_integer? (h : v.integer? = some i) : v.Writes i := by
  cases v with
  | int n =>
      cases h
      exact .int
  | float x => exact .float h
  | _ => cases h

theorem isNumeric_of_integer? (h : v.integer? = some i) : v.isNumeric = true := by
  cases v with
  | int n => rfl
  | float x => exact isFinite_of_toInt? h
  | _ => cases h

theorem isNull_of_integer? (h : v.integer? = some i) : v.isNull = false := by
  cases v with
  | int | float => rfl
  | _ => cases h

theorem isLong_of_small (small : i.natAbs ≤ 2 ^ 53) : isLong i = false :=
  isLong_of_lt (by decide : 16 ≤ writtenDigits) (small.trans_lt (by decide))

/-- However it is held, an integer is shown by its decimal text. -/
theorem display_of_integer? (h : v.integer? = some i) (small : i.natAbs ≤ 2 ^ 53) :
    v.display = .ok (toString i) := by
  cases v with
  | int n =>
      cases h
      exact write_int (isLong_of_small small)
  | float x =>
      have whole : x.toInt? = some i := h
      simp only [display, whole]
  | _ => cases h

/-- Texts of integers are told apart by reading them. -/
theorem toString_eq_iff (small : i.natAbs ≤ 2 ^ 53) (other : j.natAbs ≤ 2 ^ 53) :
    toString i = toString j ↔ i = j := by
  constructor
  · intro same
    obtain ⟨x, read, whole⟩ :=
      (Writes.text (Numeral.writes_toString i)).toNumber_eq small
    obtain ⟨y, again, wholeAgain⟩ :=
      (Writes.text (Numeral.writes_toString j)).toNumber_eq other
    rw [same] at read
    cases read.symm.trans again
    exact Option.some.inj (whole.symm.trans wholeAgain)
  · rintro rfl
    rfl

/-- Integers are the same record when they are the same number. -/
theorem same_iff_integer (hv : v.integer? = some i) (hw : w.integer? = some j) :
    v.same w = true ↔ i = j := by
  cases v with
  | int n =>
      cases hv
      cases w with
      | int m =>
          cases hw
          exact beq_iff_eq
      | float y =>
          have whole : y.toInt? = some j := hw
          simp only [same, sameScalar, asInt?, isInt, whole, beq_iff_eq, Option.some.injEq]
          exact eq_comm
      | _ => cases hw
  | float x =>
      have whole : x.toInt? = some i := hv
      cases w with
      | int m =>
          cases hw
          simp only [same, sameScalar, asInt?, isInt, whole, beq_iff_eq, Option.some.injEq]
      | float y =>
          have wholeValue : y.toInt? = some j := hw
          have copied : x = y → i = j := by
            rintro rfl
            exact Option.some.inj (whole.symm.trans wholeValue)
          have equal := (relatedAs_of_toInt? whole wholeValue).equal
          simp only [same, sameScalar, Binary64.same, equal, Bool.or_eq_true, decide_eq_true_iff,
            beq_iff_eq]
          exact ⟨fun h => h.elim id copied, .inl⟩
      | _ => cases hw
  | _ => cases hv

theorem equalTo_integers (hv : v.integer? = some i) (written : w.Writes j)
    (small : i.natAbs ≤ 2 ^ 53) (other : j.natAbs ≤ 2 ^ 53) :
    equalTo v w = .ok (decide (i = j)) := by
  obtain ⟨x, counted, whole⟩ := (writes_of_integer? hv).toNumber_eq small
  obtain ⟨y, expected, wholeValue⟩ := written.toNumber_eq other
  rw [equalTo_of_numeric (isNumeric_of_integer? hv) counted expected,
    (relatedAs_of_toInt? whole wholeValue).equal]

theorem IsShown.isNull_eq (h : v.IsShown) : v.isNull = false := by
  cases h with
  | bool b => rfl
  | text text =>
      cases v with
      | text | choice => rfl
      | _ => cases text
  | integer small =>
      obtain ⟨i, hv, -⟩ := small
      exact isNull_of_integer? hv

/-- A value of these is shown by a text that it is equal to. -/
theorem IsShown.equalTo_display (h : v.IsShown) :
    ∃ shown, v.display = .ok shown ∧ equalTo v (.text shown) = .ok true := by
  cases h with
  | bool b =>
      refine ⟨_, rfl, ?_⟩
      cases b with
      | false => decide +kernel
      | true => decide +kernel
  | text text =>
      cases v with
      | text | choice => exact ⟨_, rfl, congrArg Except.ok (beq_self_eq_true _)⟩
      | _ => cases text
  | integer small =>
      obtain ⟨i, hv, small⟩ := small
      refine ⟨toString i, display_of_integer? hv small, ?_⟩
      rw [equalTo_integers hv (.text (Numeral.writes_toString i)) small small, decide_eq_true rfl]

end Value

theorem Operator.judge_equal {op : Operator} (member : op ∈ [Operator.is, .equals])
    (actual expected : Value) : op.judge actual expected = equalTo actual expected := by
  simp only [List.mem_cons, List.not_mem_nil, or_false] at member
  rcases member with rfl | rfl
  · rfl
  · rfl

/-- What conditions make of displayed values in a context, as long as what is displayed is no token.
A number that is an integer is equal to what another one displays exactly if they are the same
integer, which is if they are the same record, and if they display the same. -/
structure ComparesAsShown (context : EvaluationContext) : Prop where
  own : ∀ op ∈ [Operator.is, .equals], ∀ operator v, Operator.ofValue? operator = some op →
    v.IsShown → ∃ shown, v.display = .ok shown ∧
      (Value.get? context.tokens (Text.trim shown) = none →
        holds context v operator (.text shown) = .ok true)
  numbers : ∀ op ∈ [Operator.is, .equals], ∀ operator v w, Operator.ofValue? operator = some op →
    v.IsSmallInteger → w.IsSmallInteger →
    ∃ left right, v.display = .ok left ∧ w.display = .ok right ∧
      (Value.get? context.tokens (Text.trim right) = none →
        ∃ answer, holds context v operator (.text right) = .ok answer ∧
          (answer = true ↔ v.integer? = w.integer?)) ∧
      (v.same w = true ↔ v.integer? = w.integer?) ∧ (left = right ↔ v.integer? = w.integer?)

theorem compares_as_shown (context : EvaluationContext) : ComparesAsShown context where
  own op member operator v named shown := by
    obtain ⟨text, displayed, equal⟩ := shown.equalTo_display
    refine ⟨text, displayed, fun plain => ?_⟩
    rw [holds_of_operator named shown.isNull_eq, EvaluationContext.resolve_plain plain,
      Operator.judge_equal member, equal]
  numbers op member operator v w named left right := by
    obtain ⟨i, hv, small⟩ := left
    obtain ⟨j, hw, other⟩ := right
    refine ⟨_, _, Value.display_of_integer? hv small, Value.display_of_integer? hw other,
      ?_, ?_, ?_⟩
    · intro plain
      refine ⟨decide (i = j), ?_, by rw [hv, hw, Option.some_inj, decide_eq_true_iff]⟩
      rw [holds_of_operator named (Value.isNull_of_integer? hv),
        EvaluationContext.resolve_plain plain, Operator.judge_equal member,
        Value.equalTo_integers hv (.text (Numeral.writes_toString j)) small other]
    · rw [hv, hw, Option.some_inj]
      exact Value.same_iff_integer hv hw
    · rw [hv, hw, Option.some_inj]
      exact Value.toString_eq_iff small other

-- a negative zero is shown and compared as zero
example : holds (.ofDay ⟨2025, 10, 1, by decide⟩) (.float (.finite true 0 0)) (.text "Equals")
    (.text "0") = .ok true := by decide +kernel

end CourseAudit
