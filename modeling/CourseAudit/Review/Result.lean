import CourseAudit.Evaluation.Engine
import CourseAudit.Vocabulary.Unknown

/-!
What a reviewer sees of one task for one section. A missing section comes first, then tasks that
are decided by hand, incomplete tasks, overrides, and last the evaluation.
-/
namespace CourseAudit

/-- A passing or failing verdict, as a reviewer gives one or a list is filtered by one. -/
inductive Verdict
  | pass | fail
deriving DecidableEq, Repr

namespace Verdict

def all : List Verdict := [.pass, .fail]

def label : Verdict → String
  | .pass => "pass"
  | .fail => "fail"

def passes (v : Verdict) : Bool := v == .pass

/-- The verdict of an override; a value that is not set is no override. -/
def ofOverride (v : Value) : Except UnknownMember (Option Verdict) :=
  if v.isSet then (memberOf "ManualOverride" label all v).map some else .ok none

/-- The verdict that a list is filtered by. -/
def ofMode (v : Value) : Except UnknownMember Verdict := memberOf "ContextMode" label all v

end Verdict

/-- What the panel of a result shows. -/
inductive ReviewStatus
  | noSection | manual | evaluated | invalid
deriving DecidableEq, Repr

def ReviewStatus.label : ReviewStatus → String
  | .noSection => "no_section"
  | .manual => "manual"
  | .evaluated => "evaluated"
  | .invalid => "invalid"

/-- An outcome with how it came about. -/
structure ReviewedOutcome where
  outcome : Outcome
  isOverride : Bool
  isManual : Bool
deriving Repr

def ReviewedOutcome.view (r : ReviewedOutcome) : Except Fault Value := do
  return .dict ((← r.outcome.view) ++
    [("is_manual_override", .bool r.isOverride), ("is_manual_task", .bool r.isManual)])

/-- A status with the outcome behind it, where there is one. -/
structure Review where
  status : ReviewStatus
  data : Option ReviewedOutcome
deriving Repr

def Review.view (r : Review) : Except Fault Value := do
  let data ← match r.data with
    | some d => d.view
    | none => pure .null
  return .dict [("status", .text r.status.label), ("data", data)]

namespace PlanTask

/-- Outcomes given by hand have no value to show but yes and no. -/
def manualDisplay (t : PlanTask) (passes : Bool) : String :=
  if t.displayType.asText? == some DisplayType.yesNo.label then yesNo passes else ""

/-- The outcome that a reviewer decides. -/
def manualOutcome (t : PlanTask) (passes : Bool) : Except Fault Outcome :=
  (t.presentation passes).get.map fun p => ⟨passes, t.manualDisplay passes, p⟩

/-- A task without groups fails until a reviewer says otherwise. -/
def reviewByHand (t : PlanTask) (override : Option Verdict) : Except Fault Review :=
  let passes := (override.map Verdict.passes).getD false
  (t.manualOutcome passes).map fun outcome => ⟨.manual, some ⟨outcome, override.isSome, true⟩⟩

/-- What a reviewer sees of a task for a section. -/
def review (catalog : Catalog) (context : EvaluationContext) (t : PlanTask)
    (s : Slot Section) (override : Option Verdict) : Except Fault Review :=
  if s.isNull then .ok ⟨.noSection, none⟩
  else if !t.groups.isSet then t.reviewByHand override
  else do
    if ← t.isIncomplete catalog then return ⟨.invalid, none⟩
    match override with
    | some verdict =>
      return ⟨.evaluated, some ⟨← t.manualOutcome verdict.passes, true, false⟩⟩
    | none =>
      match ← t.evaluate catalog context s with
      | some outcome => return ⟨.evaluated, some ⟨outcome, false, false⟩⟩
      | none => return ⟨.noSection, none⟩

end PlanTask
end CourseAudit
