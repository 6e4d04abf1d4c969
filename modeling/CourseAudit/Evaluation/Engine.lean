import CourseAudit.Evaluation.Completeness
import CourseAudit.Evaluation.Display

/-!
Deciding a task for a section. Groups combine by or, the conditions of a group by and; a condition
that cannot be decided does not hold, and affects no other condition.
-/
namespace CourseAudit

/-- The decision of a condition, as far as it can be made. -/
def Condition.decide (catalog : Catalog) (context : EvaluationContext) (c : Condition)
    (s : Slot Section) : Test := do
  let actual ← c.resolve catalog context s
  holds context actual c.operator c.value

/-- Whether a condition holds of a section. -/
def Condition.holds (catalog : Catalog) (context : EvaluationContext) (c : Condition)
    (s : Slot Section) : Bool := (c.decide catalog context s).holds

/-- Whether all conditions of a group hold, asked up to the first that does not. -/
def ConditionGroup.holds (catalog : Catalog) (context : EvaluationContext) (g : ConditionGroup)
    (s : Slot Section) : Test := do
  Test.all (Slot.test fun c => .ok (c.holds catalog context s)) (← g.conditions.members)

/-- What comes of a task for a section. -/
structure Outcome where
  passes : Bool
  display : String
  presentation : Presentation
deriving Repr

/-- The outcome as it is answered; its kind of result has to be one of the vocabulary. -/
def Outcome.view (o : Outcome) : Except Fault (List (String × Value)) :=
  match o.presentation.type with
  | .choice c =>
    .ok [("passes", .bool o.passes), ("display_value", .text o.display),
      ("result_type", .text c.label), ("custom_name", o.presentation.customName),
      ("icon", o.presentation.icon)]
  | _ => .error .absent

namespace PlanTask

/-- Whether some group holds, asked up to the first that does. -/
def passes (catalog : Catalog) (context : EvaluationContext) (t : PlanTask) (s : Slot Section) :
    Test := do
  Test.any (Slot.test fun g => g.holds catalog context s) (← t.groups.members)

/-- The outcome of a task, which a task without groups does not have. -/
def evaluate (catalog : Catalog) (context : EvaluationContext) (t : PlanTask)
    (s : Slot Section) : Except Fault (Option Outcome) :=
  if t.groups.isSet then do
    let passes ← t.passes catalog context s
    let display ← t.display catalog context passes s
    let _ ← s.get
    let presentation ← (t.presentation passes).get
    return some ⟨passes, display, presentation⟩
  else .ok none

/-- The outcome of a task that is complete. -/
def evaluateComplete (catalog : Catalog) (context : EvaluationContext) (t : PlanTask)
    (s : Slot Section) : Except Fault (Option Outcome) := do
  if ← t.isComplete catalog then t.evaluate catalog context s
  else return none

end PlanTask
end CourseAudit
