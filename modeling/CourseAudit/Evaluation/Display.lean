import CourseAudit.Evaluation.Reader
import CourseAudit.Value.Vocabulary

/-!
How the outcome of a task is shown. Showing never fails: what cannot be rendered is shown as not
available. Values are shown only for tasks with exactly one condition.
-/
namespace CourseAudit

/-- Yes or no. -/
def yesNo (passes : Bool) : String := if passes then "Yes" else "No"

/-- Properties whose values are percentages already. -/
def percentProperties : List String := ["Total Percent"]

/-- The percentage to show for a value, if there is one. -/
def shownPercent (c : Condition) (actual expected : Value) : Except Fault Value :=
  if (c.property.asText?.map percentProperties.contains).getD false then .ok actual
  else
    match actual with
    | .int _ | .float _ => do
      match ← percentOf actual expected with
      | some i => return .int i
      | none => return .null
    | _ => .ok .null

/-- A value rendered by a display type. -/
def DisplayType.render (c : Condition) (actual expected : Value) :
    DisplayType → Except Fault String
  | .number | .statusLabel => actual.display
  | .fraction => do
    match ← expected.toNumber with
    | none => return notAvailable
    | some whole =>
      if actual.isNull || whole.isZero then return notAvailable
      else return (← actual.display) ++ " / " ++ (← expected.display)
  | .percent => do
    let percent ← shownPercent c actual expected
    if percent.isNull then return notAvailable else return (← percent.display) ++ "%"
  | .date => .ok (displayDate actual)
  | .yesNo => .ok notAvailable

/-- The display value of a task with a governing condition, whose value is `actual`. A display type
that is none shows yes or no. -/
def PlanTask.displayOf (context : EvaluationContext) (t : PlanTask) (passes : Bool)
    (governing : Option (Slot Condition)) (actual : Condition → Except Fault Value) : String :=
  match DisplayType.ofValue? t.displayType, governing with
  | none, _ | some .yesNo, _ | _, none => yesNo passes
  | some type, some slot =>
    let shown := do
      let c ← slot.get
      type.render c (← actual c) (context.resolve c.value)
    match shown with
    | .ok shown => shown
    | .error _ => notAvailable

/-- The display value of a task for a section. -/
def PlanTask.display (catalog : Catalog) (context : EvaluationContext) (t : PlanTask)
    (passes : Bool) (s : Slot Section) : Except Fault String :=
  t.governing.map fun governing =>
    t.displayOf context passes governing fun c => c.resolve catalog context s

/-- Fractions and percentages need a value above zero to divide by. -/
def divides (whole : Value) : Test := do
  match ← whole.toNumber with
  | some x => return x.gt Binary64.zero
  | none => return false

/-- The display types that an editor may offer. With a context, a token counts as what it stands
for. -/
def PlanTask.allowedDisplays (catalog : Catalog) (context : Option EvaluationContext)
    (t : PlanTask) : Except Fault (List DisplayType) := do
  match ← t.governing with
  | none => return [.yesNo]
  | some slot =>
    let c ← slot.get
    match ← catalog.ruleOf c with
    | none => return [.yesNo]
    | some rule =>
      match rule.valueType with
      | .numeric =>
        let whole := match context with
          | some context => context.resolve c.value
          | none => c.value
        if ← (Operator.requiresValue c.operator).and (divides whole) then
          return [.yesNo, .number, .fraction, .percent]
        else return [.yesNo, .number]
      | .date => return [.yesNo, .date]
      | .text | .select => return [.yesNo, .statusLabel]
      | .none => return [.yesNo]

end CourseAudit
