import CourseAudit.Proofs.Comparison

/-!
Operators and their names. A comparison reads the name of an operator whatever its capitals and
outer blanks; whether a value is asked for is told by the label alone.
-/
namespace CourseAudit

/-- A value that is read as a text is looked up under it, and is set unless it is empty. -/
theorem Value.key_of_asText? {v : Value} {name : String} (text : v.asText? = some name) :
    v.key = .ok (some name) ∧ v.isSet = !name.isEmpty := by
  cases v with
  | text | choice =>
      cases text
      exact ⟨rfl, rfl⟩
  | _ => cases text

namespace Operator

theorem ofLabel?_label (op : Operator) : ofLabel? op.label = some op := by
  cases op <;> decide +kernel

theorem label_ne_empty (op : Operator) : op.label.isEmpty = false := by
  cases op <;> decide +kernel

theorem ofLabel?_eq_some_iff {s : String} {op : Operator} :
    ofLabel? s = some op ↔ s = op.label := by
  constructor
  · intro h
    have same := List.find?_some h
    simp only [beq_iff_eq] at same
    exact same.symm
  · rintro rfl
    exact ofLabel?_label op

theorem ofText?_of_ofLabel? {s : String} {op : Operator} (h : ofLabel? s = some op) :
    ofText? s = some op := by
  have named : s = op.label := ofLabel?_eq_some_iff.mp h
  have filled : s.isEmpty = false := by rw [named, label_ne_empty]
  simp only [ofText?, filled, h, Bool.false_eq_true, if_false]

/-- A choice of an operator is read like the text of its label. -/
theorem ofValue?_eq_bind (v : Value) : ofValue? v = v.asText?.bind ofText? := by
  cases v with
  | choice c =>
      cases c with
      | operator op => exact (ofText?_of_ofLabel? (ofLabel?_label op)).symm
      | _ => rfl
  | _ => rfl

theorem ofValue?_label (op : Operator) : ofValue? (.text op.label) = some op := by
  rw [ofValue?_eq_bind]
  exact ofText?_of_ofLabel? (ofLabel?_label op)

theorem ofValue?_eq_some_iff {v : Value} {op : Operator} :
    ofValue? v = some op ↔ ∃ s, v.asText? = some s ∧ ofText? s = some op := by
  rw [ofValue?_eq_bind, Option.bind_eq_some_iff]

theorem filled_of_ofText? {s : String} {op : Operator} (named : ofText? s = some op) :
    s.isEmpty = false := by
  cases empty : s.isEmpty with
  | false => rfl
  | true => simp only [ofText?, empty, if_true, reduceCtorEq] at named

theorem isSet_of_named {v : Value} {op : Operator} (named : ofValue? v = some op) :
    v.isSet = true := by
  obtain ⟨s, text, named⟩ := ofValue?_eq_some_iff.mp named
  rw [(Value.key_of_asText? text).2, filled_of_ofText? named]
  rfl

/-- What names an operator asks for a value unless the operator judges a value alone and stands
there by its label. -/
theorem requiresValue_of_named {v : Value} {op : Operator} (named : ofValue? v = some op) :
    requiresValue v = .ok (!(op.isValueFree && v.asText? == some op.label)) := by
  have set := isSet_of_named named
  obtain ⟨s, text, named⟩ := ofValue?_eq_some_iff.mp named
  rw [requiresValue, if_pos set, (Value.key_of_asText? text).1, text]
  refine congrArg (fun free : Bool => Except.ok (!free)) ?_
  cases label : ofLabel? s with
  | none =>
      have other : s ≠ op.label := by
        rintro rfl
        cases label.symm.trans (ofLabel?_label op)
      simp [other]
  | some found =>
      cases (ofText?_of_ofLabel? label).symm.trans named
      simp [ofLabel?_eq_some_iff.mp label]

theorem requiresValue_label (op : Operator) :
    requiresValue (.text op.label) = .ok (!op.isValueFree) := by
  rw [requiresValue_of_named (ofValue?_label op)]
  simp [Value.asText?]

/-- What asks for no value names no operator, or one that judges a value alone. -/
theorem isValueFree_of_requiresValue {v : Value} {op : Operator} (h : requiresValue v = .ok false)
    (named : ofValue? v = some op) : op.isValueFree = true := by
  rw [requiresValue_of_named named, Except.ok.injEq, Bool.not_eq_false', Bool.and_eq_true] at h
  exact h.1

/-- An operator that judges a value alone has no use for another one. -/
theorem judge_of_isValueFree {op : Operator} (h : op.isValueFree = true)
    (actual expected other : Value) : op.judge actual expected = op.judge actual other := by
  cases op with
  | isPublished | isNotPublished | isComplete | isNotComplete | isPresent | isNotPresent | isEmpty
  | isNotEmpty | isTrue | isFalse | isActive | isInactive | «exists» | doesNotExist => rfl
  | _ => cases h

/-- A comparison that asks for no value is the same with any. -/
theorem holds_of_requiresValue {context : EvaluationContext} {operator : Value}
    (h : requiresValue operator = .ok false) (actual expected other : Value) :
    holds context actual operator expected = holds context actual operator other := by
  cases named : ofValue? operator with
  | none => simp only [holds, named]
  | some op =>
      cases absent : actual.isNull with
      | true => rw [holds_of_null named absent, holds_of_null named absent]
      | false =>
          rw [holds_of_operator named absent, holds_of_operator named absent]
          exact judge_of_isValueFree (isValueFree_of_requiresValue h named) _ _ _

end Operator
end CourseAudit
