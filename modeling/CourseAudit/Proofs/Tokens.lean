import CourseAudit.Proofs.Paraphrase

/-!
Tokens in the place of values. A token is replaced where a value is compared, measured against or
shown, and replacing it beforehand makes no difference as long as no replacement is a token itself.
-/
namespace CourseAudit

namespace EvaluationContext

/-- No replacement that is a text is a token, apart from outer blanks. -/
def Settled (context : EvaluationContext) : Prop :=
  ∀ entry ∈ context.tokens, ∀ s, entry.2.asText? = some s →
    Value.get? context.tokens (Text.trim s) = none

variable {context : EvaluationContext}

theorem resolve_of_text {v : Value} {s : String} (text : v.asText? = some s) :
    context.resolve v = (Value.get? context.tokens (Text.trim s)).getD v := by
  simp only [resolve, text]

theorem resolve_of_noToken {v : Value}
    (h : ∀ s, v.asText? = some s → Value.get? context.tokens (Text.trim s) = none) :
    context.resolve v = v := by
  cases text : v.asText? with
  | none => simp only [resolve, text]
  | some s => rw [resolve_of_text text, h s text, Option.getD_none]

theorem resolve_plain {s : String} (plain : Value.get? context.tokens (Text.trim s) = none) :
    context.resolve (.text s) = .text s := by
  rw [resolve_of_text rfl, plain, Option.getD_none]

/-- What has been replaced is not replaced again. -/
theorem Settled.resolve_resolve (settled : context.Settled) (v : Value) :
    context.resolve (context.resolve v) = context.resolve v := by
  cases text : v.asText? with
  | none =>
      have same : context.resolve v = v := by simp only [resolve, text]
      rw [same, same]
  | some s =>
      cases found : Value.get? context.tokens (Text.trim s) with
      | none =>
          have same : context.resolve v = v := by
            rw [resolve_of_text text, found, Option.getD_none]
          rw [same, same]
      | some w =>
          have replaced : context.resolve v = w := by
            rw [resolve_of_text text, found, Option.getD_some]
          obtain ⟨entry, at_, rfl⟩ := Option.map_eq_some_iff.mp found
          rw [replaced]
          exact resolve_of_noToken (settled entry (List.mem_of_find?_eq_some at_))

/-- A value as it stands, or with its token replaced. -/
def Replaces (context : EvaluationContext) (v w : Value) : Prop := w = v ∨ w = context.resolve v

theorem Settled.resolve_eq (settled : context.Settled) {v w : Value}
    (h : context.Replaces v w) : context.resolve w = context.resolve v := by
  rcases h with rfl | rfl
  · rfl
  · exact settled.resolve_resolve v

end EvaluationContext

variable {catalog : Catalog} {context : EvaluationContext}

/-- A sub-condition that differs from another at most by a replaced token. -/
structure SubCondition.Resolves (context : EvaluationContext) (s t : SubCondition) : Prop where
  id : t.id = s.id
  property : t.property = s.property
  operator : t.operator = s.operator
  value : context.Replaces s.value t.value

/-- A condition that differs from another at most by replaced tokens, its own and those of its
sub-conditions. -/
structure Condition.Resolves (context : EvaluationContext) (c d : Condition) : Prop where
  id : d.id = c.id
  groupType : d.groupType = c.groupType
  source : d.source = c.source
  property : d.property = c.property
  operator : d.operator = c.operator
  value : context.Replaces c.value d.value
  subConditions : c.subConditions.Related (SubCondition.Resolves context) d.subConditions

/-- With its token replaced, a condition says the same. -/
theorem Condition.Resolves.paraphrases {c d : Condition} (h : c.Resolves context d)
    (settled : context.Settled) : c.Paraphrases context d where
  groupType := h.groupType
  source := h.source
  property := h.property
  operator := by rw [h.operator]
  value := settled.resolve_eq h.value
  subConditions := by
    refine h.subConditions.imp fun s t same => ⟨same.property, ?_, settled.resolve_eq same.value⟩
    rw [same.operator]

/-- A task in which the values of some conditions and sub-conditions are replaced by what their
tokens stand for. -/
structure PlanTask.Resolves (context : EvaluationContext) (t u : PlanTask) : Prop where
  groups : t.groups.Related
    (fun g h => h.id = g.id ∧ g.conditions.Related (Condition.Resolves context) h.conditions)
    u.groups
  others : u = { t with groups := u.groups }

namespace PlanTask

theorem Resolves.evaluate_eq {t u : PlanTask} (h : t.Resolves context u)
    (settled : context.Settled) (s : Slot Section) :
    u.evaluate catalog context s = t.evaluate catalog context s := by
  have related : t.Related (Condition.Paraphrases context) u := by
    have others := h.others
    generalize u.groups = groups at others
    subst others
    refine ⟨h.groups.imp fun _ _ same => ?_, rfl, rfl, rfl⟩
    exact same.2.imp fun _ _ replaced => replaced.paraphrases settled
  exact related.evaluate_of_paraphrases s

/-- A task that shows how many assignments of a name there are in percent of a number. -/
def shareOf (name whole : Value) : PlanTask where
  displayType := .choice (.display .percent)
  groups := .ofList [{ conditions := .ofList [{
    groupType := .choice (.group .lms), source := .text "Assignments"
    property := .text "Total Percent", operator := .text "Is greater than"
    value := whole
    subConditions := .ofList [{
      property := .text "Name", operator := .text "Is", value := name }] }] }]

def essayContext : EvaluationContext :=
  ⟨⟨2025, 9, 1, by decide⟩, [(braced "kind", .text "Essay"), (braced "whole", .text "8")]⟩

def essayCourse : Section where
  assignments := .ofList [{ name := .text "Essay" }, { name := .text "Talk" }]

/-- One essay in percent of eight, with tokens for the name and for the whole. -/
theorem evaluate_shareOf :
    (shareOf (.text (braced "kind")) (.text (braced "whole"))).Resolves essayContext
      (shareOf (.text "Essay") (.text "8")) ∧ essayContext.Settled ∧
      ∃ o, (shareOf (.text (braced "kind")) (.text (braced "whole"))).evaluate Catalog.standard
        essayContext essayCourse = .ok (some o) ∧ o.passes = true ∧ o.display = "13%" := by
  have name : essayContext.Replaces (.text (braced "kind")) (.text "Essay") := .inr rfl
  have whole : essayContext.Replaces (.text (braced "whole")) (.text "8") := .inr rfl
  have resolves : (shareOf (.text (braced "kind")) (.text (braced "whole"))).Resolves essayContext
      (shareOf (.text "Essay") (.text "8")) :=
    ⟨.own (.cons (.own ⟨rfl, .own (.cons (.own ⟨rfl, rfl, rfl, rfl, rfl, whole,
      .own (.cons (.own ⟨rfl, rfl, rfl, name⟩) .nil)⟩) .nil)⟩) .nil), rfl⟩
  have settled : essayContext.Settled := by
    intro entry member s text
    simp only [essayContext, List.mem_cons, List.not_mem_nil, or_false] at member
    rcases member with rfl | rfl
    · cases text
      rfl
    · cases text
      rfl
  have same := @Resolves.evaluate_eq Catalog.standard essayContext _ _ resolves settled essayCourse
  have shown : ((shareOf (.text "Essay") (.text "8")).evaluate Catalog.standard essayContext
      essayCourse).toOption.map (Option.map fun o => (o.passes, o.display)) =
      some (some (true, "13%")) := by decide +kernel
  rw [same] at shown
  cases evaluated : (shareOf (.text (braced "kind")) (.text (braced "whole"))).evaluate
      Catalog.standard essayContext essayCourse with
  | error fault =>
      rw [evaluated] at shown
      cases shown
  | ok found =>
      rw [evaluated] at shown
      obtain ⟨o, rfl, answer⟩ := Option.map_eq_some_iff.mp (Option.some.inj shown)
      obtain ⟨passes, display⟩ := Prod.mk.inj answer
      exact ⟨resolves, settled, o, rfl, passes, display⟩

end PlanTask
end CourseAudit
