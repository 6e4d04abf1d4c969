import CourseAudit.Evaluation.Reader
import CourseAudit.Value.Vocabulary

/-!
Whether the conditions of a task are complete. The fields of a condition are filled in order, and
a field is only missed once the one before it is set. One traversal answers whether anything is
missing, the other lists all that is.
-/
namespace CourseAudit

/-- What is missing of a condition. -/
inductive GapKind
  | groupType | source | property | operator | value | subConditions
  | subProperty | subOperator | subValue
deriving DecidableEq, Repr

namespace GapKind

/-- The field that an editor marks. -/
def field : GapKind → String
  | .groupType => "groupType"
  | .source => "source"
  | .property | .subProperty => "property"
  | .operator | .subOperator => "operator"
  | .value | .subValue => "value"
  | .subConditions => "subConditions"

def message : GapKind → String
  | .groupType => "Condition type is required"
  | .source => "Source is required"
  | .property => "Property is required"
  | .operator => "Operator is required"
  | .value => "Value is required"
  | .subConditions => "At least one sub-condition is required"
  | .subProperty => "Sub-condition property is required"
  | .subOperator => "Sub-condition operator is required"
  | .subValue => "Sub-condition value is required"

end GapKind

/-- A missing field with the ids of where it is missing. -/
structure Gap where
  groupId : Value
  conditionId : Value
  subConditionId : Value
  kind : GapKind
deriving Repr

def Gap.view (g : Gap) : Value :=
  .dict [("group_id", g.groupId), ("condition_id", g.conditionId),
    ("sub_condition_id", g.subConditionId), ("field", .text g.kind.field),
    ("message", .text g.kind.message)]

/-- No value, or an empty text. -/
def Value.isMissing : Value → Bool
  | .null => true
  | .text s => s.isEmpty
  | .choice c => c.label.isEmpty
  | _ => false

/-- An operator is missed once the property is set. -/
def lacksOperator (property operator : Value) : Bool := property.isSet && !operator.isSet

/-- A value is missed once an operator is set that compares with one. -/
def lacksValue (operator value : Value) : Test :=
  (Operator.requiresValue operator).and (.ok value.isMissing)

namespace SubCondition

def lacksProperty (s : SubCondition) : Bool := !s.property.isSet

def isIncomplete (s : SubCondition) : Test :=
  if s.lacksProperty || lacksOperator s.property s.operator then .ok true
  else lacksValue s.operator s.value

end SubCondition

namespace Condition

def lacksGroupType (c : Condition) : Bool := !c.groupType.isSet

def lacksSource (c : Condition) : Bool := c.groupType.isSet && !c.source.isSet

def lacksProperty (c : Condition) : Bool := c.source.isSet && !c.property.isSet

/-- Whether the property of a condition says something only with sub-conditions. -/
def needsSubConditions (catalog : Catalog) (c : Condition) : Test := do
  match ← catalog.ruleOf c with
  | some rule => return rule.needsSubConditions
  | none => return false

def lacksSubConditions (catalog : Catalog) (c : Condition) : Test :=
  (c.needsSubConditions catalog).and (.ok (!c.subConditions.isSet))

/-- Whether anything is missing, asked up to the first that is. -/
def isIncomplete (catalog : Catalog) (c : Condition) : Test :=
  if c.lacksGroupType || c.lacksSource || c.lacksProperty ||
      lacksOperator c.property c.operator then .ok true
  else
    (lacksValue c.operator c.value).or ((c.lacksSubConditions catalog).or do
      Test.any (Slot.test SubCondition.isIncomplete) (← c.subConditions.members))

end Condition

namespace PlanTask

/-- Whether some condition of a task is incomplete. -/
def isIncomplete (catalog : Catalog) (t : PlanTask) : Test := do
  Test.any (Slot.test (Condition.isIncomplete catalog)) (← t.conditions)

def isComplete (catalog : Catalog) (t : PlanTask) : Test := (t.isIncomplete catalog).map (!·)

/-- A task can be saved when it is complete and has a name that is not blank. -/
def isSavable (catalog : Catalog) (t : PlanTask) : Test :=
  if t.name.isSet then
    match t.name.asText? with
    | none => .error .absent
    | some name => if Text.isBlankText name then .ok false else t.isComplete catalog
  else .ok false

end PlanTask

/-- The kinds whose question says yes, in order. -/
def foundGaps : List (GapKind × Test) → Except Fault (List GapKind)
  | [] => .ok []
  | (kind, test) :: rest => do
    let found ← test
    let others ← foundGaps rest
    return if found then kind :: others else others

namespace SubCondition

/-- Everything that is missing of a sub-condition. -/
def gaps (s : SubCondition) : Except Fault (List GapKind) :=
  foundGaps [(.subProperty, .ok s.lacksProperty),
    (.subOperator, .ok (lacksOperator s.property s.operator)),
    (.subValue, lacksValue s.operator s.value)]

end SubCondition

namespace Condition

/-- Everything that is missing of a condition apart from its sub-conditions. -/
def ownGaps (catalog : Catalog) (c : Condition) : Except Fault (List GapKind) :=
  foundGaps [(.groupType, .ok c.lacksGroupType), (.source, .ok c.lacksSource),
    (.property, .ok c.lacksProperty), (.operator, .ok (lacksOperator c.property c.operator)),
    (.value, lacksValue c.operator c.value), (.subConditions, c.lacksSubConditions catalog)]

/-- Everything that is missing of a condition of a group. -/
def gaps (catalog : Catalog) (groupId : Value) (c : Condition) : Except Fault (List Gap) := do
  let own ← c.ownGaps catalog
  let subs ← (← c.subConditions.members).mapM fun slot => do
    let s ← slot.get
    return (← s.gaps).map fun kind => (⟨groupId, c.id, s.id, kind⟩ : Gap)
  return own.map (fun kind => ⟨groupId, c.id, .null, kind⟩) ++ subs.flatten

end Condition

/-- Everything that is missing of the conditions of a group. -/
def ConditionGroup.gaps (catalog : Catalog) (g : ConditionGroup) : Except Fault (List Gap) := do
  let found ← (← g.conditions.members).mapM fun slot => do (← slot.get).gaps catalog g.id
  return found.flatten

/-- Every missing field of a task, in document order. -/
def PlanTask.gaps (catalog : Catalog) (t : PlanTask) : Except Fault (List Gap) := do
  let found ← (← t.groups.members).mapM fun slot => do (← slot.get).gaps catalog
  return found.flatten

end CourseAudit
