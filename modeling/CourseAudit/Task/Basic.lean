import CourseAudit.Record

/-!
Plan tasks. A task holds groups of conditions of which one has to be satisfied, and a group is
satisfied by all of its conditions. The fields of a condition are what an editor has put there so
far and need not make sense.
-/
namespace CourseAudit

/-- A filter on the items that the property of a condition counts. -/
structure SubCondition where
  id : Value := .null
  property : Value := .text ""
  operator : Value := .text ""
  value : Value := .null
deriving Repr, Inhabited

namespace SubCondition

def parts : List (Part SubCondition) :=
  [.value "id" (·.id) fun v s => { s with id := v },
    .value "property" (·.property) fun v s => { s with property := v },
    .value "operator" (·.operator) fun v s => { s with operator := v },
    .value "value" (·.value) fun v s => { s with value := v }]

def view (s : SubCondition) : Value := viewParts parts s

end SubCondition

/-- A comparison of one property of a section. -/
structure Condition where
  id : Value := .null
  groupType : Value := .null
  source : Value := .text ""
  property : Value := .text ""
  operator : Value := .text ""
  value : Value := .null
  subConditions : Slots SubCondition := .own []
deriving Repr, Inhabited

namespace Condition

def parts : List (Part Condition) :=
  [.value "id" (·.id) fun v c => { c with id := v },
    .value "group_type" (·.groupType) fun v c => { c with groupType := v },
    .value "source" (·.source) fun v c => { c with source := v },
    .value "property" (·.property) fun v c => { c with property := v },
    .value "operator" (·.operator) fun v c => { c with operator := v },
    .value "value" (·.value) fun v c => { c with value := v },
    .list "sub_conditions" SubCondition.parts (·.subConditions)
      fun subs c => { c with subConditions := subs }]

def view (c : Condition) : Value := viewParts parts c

end Condition

/-- Conditions that have to hold together. -/
structure ConditionGroup where
  id : Value := .null
  conditions : Slots Condition := .own []
deriving Repr, Inhabited

namespace ConditionGroup

def parts : List (Part ConditionGroup) :=
  [.value "id" (·.id) fun v g => { g with id := v },
    .list "conditions" Condition.parts (·.conditions)
      fun conditions g => { g with conditions := conditions }]

end ConditionGroup

/-- How a pass or a failure of a task is presented. -/
structure Presentation where
  type : Value
  customName : Value := .null
  icon : Value := .null
deriving Repr, Inhabited

namespace Presentation

def parts : List (Part Presentation) :=
  [.value "type" (·.type) fun v p => { p with type := v },
    .value "custom_name" (·.customName) fun v p => { p with customName := v },
    .value "icon" (·.icon) fun v p => { p with icon := v }]

/-- The presentation under the plain name of a kind of result. -/
def plain (type : ResultType) : Presentation := ⟨.choice (.result type), .null, .null⟩

end Presentation

/-- A task of a plan. Without groups it is decided by hand. -/
structure PlanTask where
  id : Value := .null
  term : Value := .text ""
  name : Value := .text ""
  description : Value := .text ""
  groups : Slots ConditionGroup := .own []
  displayType : Value := .choice (.display .yesNo)
  onPass : Slot Presentation := Presentation.plain .pass
  onFailure : Slot Presentation := Presentation.plain .fail
  allowView : Value := .bool true
  allowEdit : Value := .bool false
  active : Value := .bool true
deriving Repr, Inhabited

namespace PlanTask

def parts : List (Part PlanTask) :=
  [.value "id" (·.id) fun v t => { t with id := v },
    .value "term" (·.term) fun v t => { t with term := v },
    .value "name" (·.name) fun v t => { t with name := v },
    .value "description" (·.description) fun v t => { t with description := v },
    .value "display_type" (·.displayType) fun v t => { t with displayType := v },
    .value "allow_view" (·.allowView) fun v t => { t with allowView := v },
    .value "allow_edit" (·.allowEdit) fun v t => { t with allowEdit := v },
    .value "active" (·.active) fun v t => { t with active := v },
    .list "condition_groups" ConditionGroup.parts (·.groups)
      fun groups t => { t with groups := groups },
    .record "condition_result" Presentation.parts (·.onPass) fun p t => { t with onPass := p },
    .record "condition_failure" Presentation.parts (·.onFailure)
      fun p t => { t with onFailure := p }]

def view (t : PlanTask) : Value := viewParts parts t

/-- The conditions of all groups in order. -/
def conditions (t : PlanTask) : Except Fault (List (Slot Condition)) := do
  let groups ← t.groups.members
  let conditions ← groups.mapM fun slot => do (← slot.get).conditions.members
  return conditions.flatten

/-- The condition whose value a task shows: its only one. -/
def governing (t : PlanTask) : Except Fault (Option (Slot Condition)) := do
  match ← t.conditions with
  | [slot] => return if slot.isNull then none else some slot
  | _ => return none

/-- How an outcome is presented. -/
def presentation (t : PlanTask) (passes : Bool) : Slot Presentation :=
  if passes then t.onPass else t.onFailure

end PlanTask
end CourseAudit
