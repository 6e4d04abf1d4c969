import CourseAudit.Evaluation.Reader
import CourseAudit.Proofs.Questions

/-!
Filtering by sub-conditions. Each member is asked for itself, so two lists of sub-conditions keep
one after the other what they keep as one list, as long as nothing that is asked fails.
-/
namespace CourseAudit

variable {α : Type} {catalog : Catalog} {context : EvaluationContext} {c : Condition}
  {read : α → String → Except Fault Value} {first second subs : List (Slot SubCondition)}
  {members : List α}

namespace Condition

/-- A sub-condition of a condition, asked of a member whose properties are read by `property`. What
the catalog says of the condition is looked up every time. -/
def asks (catalog : Catalog) (context : EvaluationContext) (c : Condition)
    (property : String → Except Fault Value) (s : SubCondition) : Test := do
  s.holdsOf context (← catalog.ruleOf c) property

/-- The members that satisfy sub-conditions of a condition, in order. The properties of a member
are read by `read`. -/
def select (catalog : Catalog) (context : EvaluationContext) (c : Condition)
    (read : α → String → Except Fault Value) (subs : List (Slot SubCondition)) :
    List α → Except Fault (List α) :=
  Test.filter fun a => Test.all (Slot.test (c.asks catalog context (read a))) subs

/-- Whether a catalog has no rule for the property of a sub-condition, as a property of what the
condition itself looks at. -/
def LacksRule (catalog : Catalog) (c : Condition) (s : SubCondition) : Prop :=
  (catalog.ruleOf c >>= fun rule => Catalog.itemRule? rule s.property) = .ok none

/-- A property that the catalog does not know of is never there. -/
theorem LacksRule.asks_eq {s : SubCondition} (h : c.LacksRule catalog s)
    (property : String → Except Fault Value) :
    c.asks catalog context property s = CourseAudit.holds context .null s.operator s.value := by
  obtain ⟨rule, ruled, unknown⟩ := bind_eq_ok_iff.mp h
  simp only [asks, ruled, ok_bind, SubCondition.holdsOf, unknown]
  rfl

theorem allHold_eq_all {rule : Option PropertyRule} (ruled : catalog.ruleOf c = .ok rule)
    (property : String → Except Fault Value) :
    SubCondition.allHold context rule property (.own subs) =
      Test.all (Slot.test (c.asks catalog context property)) subs := by
  have same : SubCondition.holdsOf context rule property = c.asks catalog context property := by
    funext s
    rw [asks, ruled, ok_bind]
  simp only [SubCondition.allHold, Slots.members, ok_bind, same]

theorem filterItems_eq_select {rule : Option PropertyRule} (ruled : catalog.ruleOf c = .ok rule) :
    filterItems context rule (.own subs) =
      c.select catalog context (fun i name => LmsItem.property name i) subs := by
  funext items
  simp only [filterItems, select, allHold_eq_all ruled]

theorem concur_select_append :
    Concur Eq (c.select catalog context read (first ++ second) members)
      (c.select catalog context read first members >>=
        c.select catalog context read second) := by
  simp only [select, Test.all_append]
  exact Test.concur_filter_and

/-- What filtering by sub-conditions comes to. -/
structure Filters (catalog : Catalog) (context : EvaluationContext) (c : Condition)
    (read : α → String → Except Fault Value) (first second : List (Slot SubCondition))
    (members : List α) : Prop where
  /-- The items of a section are filtered by their own properties, and a component is asked in the
  same way. -/
  items : ∀ rule, catalog.ruleOf c = .ok rule → filterItems context rule (.own first) =
    c.select catalog context (fun i name => LmsItem.property name i) first
  asked : ∀ rule, catalog.ruleOf c = .ok rule → ∀ property : String → Except Fault Value,
    SubCondition.allHold context rule property (.own first) =
      Test.all (Slot.test (c.asks catalog context property)) first
  composes : Concur Eq (c.select catalog context read (first ++ second) members)
    (c.select catalog context read first members >>= c.select catalog context read second)
  /-- A result is given unless what is asked of some member fails; it holds the members of which
  every sub-condition holds, in order. -/
  kept : ∀ kept, c.select catalog context read first members = .ok kept ↔
    (∀ a ∈ members, ∃ b, Test.all (Slot.test (c.asks catalog context (read a))) first = .ok b) ∧
      kept = members.filter fun a =>
        first.all fun slot => (slot.test (c.asks catalog context (read a))).holds
  sublist : ∀ kept, c.select catalog context read first members = .ok kept → kept.Sublist members
  unknown : ∀ s, c.LacksRule catalog s → ∀ property : String → Except Fault Value,
    c.asks catalog context property s = CourseAudit.holds context .null s.operator s.value

/-- Filtering by sub-conditions composes, whatever the members and however they are read. -/
theorem filters_by_subConditions (catalog : Catalog) (context : EvaluationContext) (c : Condition)
    (read : α → String → Except Fault Value) (first second : List (Slot SubCondition))
    (members : List α) : c.Filters catalog context read first second members := by
  have kept (kept : List α) : c.select catalog context read first members = .ok kept ↔
      (∀ a ∈ members, ∃ b, Test.all (Slot.test (c.asks catalog context (read a))) first = .ok b) ∧
        kept = members.filter fun a =>
          first.all fun slot => (slot.test (c.asks catalog context (read a))).holds := by
    simp only [select, Test.filter_eq_ok_iff, Test.holds_all]
  refine ⟨fun _ => filterItems_eq_select, fun _ => allHold_eq_all, concur_select_append, kept, ?_,
    fun _ => LacksRule.asks_eq⟩
  intro others found
  rw [((kept others).mp found).2]
  exact List.filter_sublist

end Condition
end CourseAudit
