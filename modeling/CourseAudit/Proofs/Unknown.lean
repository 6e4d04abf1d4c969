import CourseAudit.Proofs.Comparison
import CourseAudit.Proofs.Filtering
import CourseAudit.Proofs.Outcome

/-!
Conditions and sub-conditions on what the catalog does not know. Whatever is asked of it fails, with
one exception: what is not known is nothing, and nothing is empty.
-/
namespace CourseAudit

variable {catalog : Catalog} {context : EvaluationContext} {c : Condition} {sub : SubCondition}
  {rule : Option PropertyRule}

/-- Nothing is only ever empty, and nothing that is compared with is looked at. -/
theorem holds_null (operator expected : Value) : holds context .null operator expected =
    .ok (Operator.ofValue? operator == some .isEmpty) := by
  cases named : Operator.ofValue? operator with
  | none =>
      simp only [holds, named]
      rfl
  | some op =>
      rw [holds_of_null named rfl]
      rfl

namespace Condition

/-- A condition whose place is none of the catalog. A place that can be none at all counts, too. -/
def IsUnknown (catalog : Catalog) (c : Condition) : Prop :=
  ∀ rule, catalog.ruleOf c ≠ .ok (some rule)

/-- A sub-condition on a property that items of the condition do not have in the catalog. -/
def IsUnknownOf (catalog : Catalog) (c : Condition) (sub : SubCondition) : Prop :=
  ∀ rule, (catalog.ruleOf c >>= fun found => Catalog.itemRule? found sub.property) ≠ .ok (some rule)

theorem holds_of_noRule (unruled : catalog.ruleOf c = .ok none) (s : Slot Section) :
    c.holds catalog context s = (Operator.ofValue? c.operator == some .isEmpty) := by
  have nothing : c.resolve catalog context s = .ok .null := by
    rw [resolve, unruled]
    rfl
  rw [Condition.holds, decide, nothing, ok_bind, holds_null]
  rfl

/-- A condition of an unknown place only holds when it is asked whether nothing is empty. -/
theorem IsUnknown.holds_iff (h : c.IsUnknown catalog) (s : Slot Section) :
    c.holds catalog context s = true ↔
      catalog.ruleOf c = .ok none ∧ Operator.ofValue? c.operator = some .isEmpty := by
  cases ruled : catalog.ruleOf c with
  | ok found =>
      cases found with
      | some rule => exact absurd ruled (h rule)
      | none => rw [holds_of_noRule ruled, beq_iff_eq, eq_self, true_and]
  | error fault =>
      have undecided : c.decide catalog context s = .error fault := by
        rw [decide, resolve, ruled]
        rfl
      rw [Condition.holds, undecided]
      simp [Test.holds]

theorem IsUnknown.group_fails (h : c.IsUnknown catalog)
    (other : Operator.ofValue? c.operator ≠ some .isEmpty) {g : ConditionGroup}
    {members : List (Slot Condition)} {notes : List (String × Value)}
    (reading : g.conditions.members = .ok members) (inside : .own c notes ∈ members)
    (s : Slot Section) : g.holds catalog context s ≠ .ok true := by
  intro held
  rw [ConditionGroup.holds, reading, ok_bind, Test.all_eq_yes_iff] at held
  have one : c.holds catalog context s = true := Except.ok.inj (held _ inside)
  exact other ((h.holds_iff s).mp one).2

/-- A sub-condition on an unknown property only holds when it asks whether nothing is empty. -/
theorem IsUnknownOf.asks_iff (h : c.IsUnknownOf catalog sub)
    (property : String → Except Fault Value) :
    c.asks catalog context property sub = .ok true ↔
      c.LacksRule catalog sub ∧ Operator.ofValue? sub.operator = some .isEmpty := by
  cases found : (catalog.ruleOf c >>= fun rule => Catalog.itemRule? rule sub.property) with
  | ok rule =>
      cases rule with
      | some rule => exact absurd found (h rule)
      | none =>
          have lacks : c.LacksRule catalog sub := found
          rw [lacks.asks_eq, holds_null, Except.ok.injEq, beq_iff_eq, and_iff_right lacks]
  | error fault =>
      have undecided : c.asks catalog context property sub = .error fault := by
        unfold asks
        cases ruled : catalog.ruleOf c with
        | error other =>
            rw [ruled] at found
            exact congrArg Except.error (Except.error.inj found)
        | ok rule =>
            rw [ruled, ok_bind] at found
            rw [ok_bind, SubCondition.holdsOf, found]
            rfl
      simp [undecided, LacksRule, found]

section Members

variable {α : Type} {read : α → String → Except Fault Value} {members kept : List α}
  {subs : List (Slot SubCondition)} {notes : List (String × Value)}
  (h : c.IsUnknownOf catalog sub) (other : Operator.ofValue? sub.operator ≠ some .isEmpty)
  (inside : .own sub notes ∈ subs)

include h other inside

theorem IsUnknownOf.all_fail (property : String → Except Fault Value) :
    Test.all (Slot.test (c.asks catalog context property)) subs ≠ .ok true := by
  intro held
  have one : c.asks catalog context property sub = .ok true := Test.all_eq_yes_iff.mp held _ inside
  exact other ((h.asks_iff property).mp one).2

theorem IsUnknownOf.select_nil (selected : c.select catalog context read subs members = .ok kept) :
    kept = [] := by
  obtain ⟨-, rfl⟩ := Test.filter_eq_ok_iff.mp selected
  refine List.filter_eq_nil_iff.mpr fun a _ held => ?_
  exact h.all_fail other inside (read a) (Test.holds_eq_true_iff.mp held)

end Members

/-- What a condition comes to where the catalog does not know of it, or of the properties that it
asks of items. -/
structure FailsUnknown (catalog : Catalog) (context : EvaluationContext) (c : Condition) :
    Prop where
  condition : c.IsUnknown catalog → ∀ s, c.holds catalog context s = true ↔
    catalog.ruleOf c = .ok none ∧ Operator.ofValue? c.operator = some .isEmpty
  group : c.IsUnknown catalog → Operator.ofValue? c.operator ≠ some .isEmpty →
    ∀ (g : ConditionGroup) members notes, g.conditions.members = .ok members →
      .own c notes ∈ members → ∀ s, g.holds catalog context s ≠ .ok true
  subCondition : ∀ sub, c.IsUnknownOf catalog sub → ∀ property : String → Except Fault Value,
    c.asks catalog context property sub = .ok true ↔
      c.LacksRule catalog sub ∧ Operator.ofValue? sub.operator = some .isEmpty
  /-- No item and no component satisfies sub-conditions of which one is on an unknown property. -/
  members : ∀ sub, c.IsUnknownOf catalog sub → Operator.ofValue? sub.operator ≠ some .isEmpty →
    ∀ subs notes, .own sub notes ∈ subs → ∀ rule, catalog.ruleOf c = .ok rule →
      (∀ items kept, filterItems context rule (.own subs) items = .ok kept → kept = []) ∧
        ∀ property : String → Except Fault Value,
          SubCondition.allHold context rule property (.own subs) ≠ .ok true

/-- What the catalog does not know fails whatever is asked of it, unless it is whether there is
nothing. -/
theorem failsUnknown (catalog : Catalog) (context : EvaluationContext) (c : Condition) :
    c.FailsUnknown catalog context where
  condition unknown s := unknown.holds_iff s
  group unknown other g members notes reading inside s :=
    unknown.group_fails other reading inside s
  subCondition sub unknown property := unknown.asks_iff property
  members sub unknown other subs notes inside rule ruled := by
    constructor
    · intro items kept filtered
      rw [filterItems_eq_select ruled] at filtered
      exact unknown.select_nil other inside filtered
    · intro property
      rw [allHold_eq_all ruled]
      exact unknown.all_fail other inside property

/-- A condition on a property that no catalog has. -/
def onShoeSize (operator : String) : Condition where
  groupType := .choice (.group .syllabus)
  source := .text "Syllabus Details"
  property := .text "Shoe size"
  operator := .text operator

/-- A condition that there is no assignment of a size. -/
def onSizes (operator : String) : Condition where
  groupType := .choice (.group .lms)
  source := .text "Assignments"
  property := .text "Total Count"
  operator := .text "Equals"
  value := .int 0
  subConditions := .ofList [{ property := .text "Shoe size", operator := .text operator }]

/-- An unknown property differs from nothing, and what is asked of an unknown property of items is
satisfied by none of them. -/
theorem failsUnknown_shoeSize :
    (onShoeSize "Does not equal").holds Catalog.standard (.ofDay ⟨2025, 10, 1, by decide⟩)
        ({} : Section) = false ∧
      (∀ property : String → Except Fault Value,
        (onSizes "Is not").asks Catalog.standard (.ofDay ⟨2025, 10, 1, by decide⟩) property
          { property := .text "Shoe size", operator := .text "Is not" } ≠ .ok true) := by
  have unruled : Catalog.standard.ruleOf (onShoeSize "Does not equal") = .ok none := rfl
  have lacks : (onSizes "Is not").LacksRule Catalog.standard
      { property := .text "Shoe size", operator := .text "Is not" } := rfl
  have differs : Operator.ofValue? (.text "Does not equal") = some .doesNotEqual := by
    decide +kernel
  have isNot : Operator.ofValue? (.text "Is not") = some .isNot := by decide +kernel
  constructor
  · rw [Bool.eq_false_iff]
    intro held
    have unknown : (onShoeSize "Does not equal").IsUnknown Catalog.standard := by
      intro rule ruled
      cases unruled.symm.trans ruled
    have empty := (((failsUnknown Catalog.standard _ _).condition unknown _).mp held).2
    cases differs.symm.trans empty
  · intro property held
    have unknown : (onSizes "Is not").IsUnknownOf Catalog.standard
        { property := .text "Shoe size", operator := .text "Is not" } := by
      intro rule ruled
      cases lacks.symm.trans ruled
    have empty := (((failsUnknown Catalog.standard _ _).subCondition _ unknown property).mp held).2
    cases isNot.symm.trans empty

/-- What is not known passes for empty, as a property of a section and as one of its items. -/
theorem unknown_holds :
    Catalog.standard.ruleOf (onShoeSize "Is empty") = .ok none ∧
      (onShoeSize "Is empty").holds Catalog.standard (.ofDay ⟨2025, 10, 1, by decide⟩)
        ({} : Section) = true ∧
      (onSizes "Is empty").LacksRule Catalog.standard
        { property := .text "Shoe size", operator := .text "Is empty" } ∧
      (onSizes "Is empty").asks Catalog.standard (.ofDay ⟨2025, 10, 1, by decide⟩)
        (fun _ => .error .absent) { property := .text "Shoe size", operator := .text "Is empty" } =
        .ok true := by
  refine ⟨rfl, ?_, rfl, ?_⟩
  · decide +kernel
  · decide +kernel

end Condition
end CourseAudit
