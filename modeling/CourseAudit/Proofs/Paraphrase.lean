import CourseAudit.Proofs.Alike

/-!
Conditions that say the same in other words. Of an operator an evaluation reads which one it names,
and of a value what it stands for; conditions that agree in both are evaluated alike.
-/
namespace CourseAudit

variable {catalog : Catalog} {context : EvaluationContext} {rule : Option PropertyRule}

theorem holds_congr {operator other expected value : Value}
    (named : Operator.ofValue? other = Operator.ofValue? operator)
    (meant : context.resolve value = context.resolve expected) (actual : Value) :
    holds context actual other value = holds context actual operator expected := by
  unfold holds
  rw [named, meant]

/-- A sub-condition that asks the same. -/
structure SubCondition.Paraphrases (context : EvaluationContext) (s t : SubCondition) : Prop where
  property : t.property = s.property
  operator : Operator.ofValue? t.operator = Operator.ofValue? s.operator
  value : context.resolve t.value = context.resolve s.value

/-- A condition that asks the same of the same items. -/
structure Condition.Paraphrases (context : EvaluationContext) (c d : Condition) : Prop where
  groupType : d.groupType = c.groupType
  source : d.source = c.source
  property : d.property = c.property
  operator : Operator.ofValue? d.operator = Operator.ofValue? c.operator
  value : context.resolve d.value = context.resolve c.value
  subConditions : c.subConditions.Related (SubCondition.Paraphrases context) d.subConditions

theorem SubCondition.Paraphrases.holdsOf_eq {s t : SubCondition} (h : s.Paraphrases context t)
    (property : String → Except Fault Value) :
    t.holdsOf context rule property = s.holdsOf context rule property := by
  unfold holdsOf
  simp only [h.property, holds_congr h.operator h.value]

namespace Condition.Paraphrases

variable {c d : Condition} (h : c.Paraphrases context d)

include h

theorem allHold_eq (property : String → Except Fault Value) :
    SubCondition.allHold context rule property d.subConditions =
      SubCondition.allHold context rule property c.subConditions :=
  (h.subConditions.all fun _ _ same => (same.holdsOf_eq property).symm).symm

theorem filterItems_eq (items : List (Slot LmsItem)) :
    filterItems context rule d.subConditions items =
      filterItems context rule c.subConditions items := by
  unfold filterItems
  simp only [h.allHold_eq]

theorem measure_eq (m : Measure) (items : List (Slot LmsItem)) :
    m.of context d items = m.of context c items := by
  cases m with
  | percent => simp only [Measure.of, h.value]
  | _ => rfl

theorem readComponent_eq (s : Slot Section) :
    readComponent context rule d s = readComponent context rule c s := by
  unfold readComponent
  simp only [h.operator, h.property, h.subConditions.isSet, h.allHold_eq]

theorem read_eq (s : Slot Section) (reader : Reader) :
    reader.read context rule d s = reader.read context rule c s := by
  cases reader with
  | componentOfName => exact h.readComponent_eq s
  | componentOfType => simp only [Reader.read, readComponentType, h.property]
  | measure items m => simp only [Reader.read, h.filterItems_eq, h.measure_eq]
  | _ => rfl

theorem ruleOf_eq : catalog.ruleOf d = catalog.ruleOf c := by
  simp only [Catalog.ruleOf, h.groupType, h.source, h.property]

/-- A condition reads the same value of a section. -/
theorem resolve_eq (s : Slot Section) :
    d.resolve catalog context s = c.resolve catalog context s := by
  have reads : Reader.ofCondition? d = Reader.ofCondition? c := by
    simp only [Reader.ofCondition?, h.groupType, h.source, h.property]
  unfold Condition.resolve
  simp only [h.ruleOf_eq, reads, h.read_eq]

theorem decide_eq (s : Slot Section) :
    d.decide catalog context s = c.decide catalog context s := by
  unfold Condition.decide
  simp only [h.resolve_eq, holds_congr h.operator h.value]

theorem rendered_eq (type : DisplayType) (s : Slot Section) :
    d.rendered catalog context type s = c.rendered catalog context type s := by
  have shown (actual expected : Value) :
      type.render d actual expected = type.render c actual expected := by
    cases type with
    | percent => simp only [DisplayType.render, shownPercent, h.property]
    | _ => rfl
  unfold Condition.rendered
  simp only [h.resolve_eq, h.value, shown]

end Condition.Paraphrases

/-- A task is evaluated by what its conditions ask. -/
theorem PlanTask.Related.evaluate_of_paraphrases {t u : PlanTask}
    (h : t.Related (Condition.Paraphrases context) u) (s : Slot Section) :
    u.evaluate catalog context s = t.evaluate catalog context s := by
  have sections : Alike (fun _ _ => True) s.get s.get := by
    cases s with
    | own record notes => exact .ok trivial
    | other v => exact .error .absent
  refine (h.evaluate sections ?_ ?_).symm
  · exact fun c d same => congrArg Test.holds (same.decide_eq s).symm
  · exact fun c d same type => (same.rendered_eq type s).symm

end CourseAudit
