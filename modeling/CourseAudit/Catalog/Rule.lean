import CourseAudit.Value.Basic
import CourseAudit.Vocabulary.Choice

/-!
The rule of a property: what kind of value it has, which options and operators an editor offers
for it, and which parts of the items behind it sub-conditions may look at.
-/
namespace CourseAudit

/-- A property of items has a rule of its own, and so on to any depth. Options and operators are
only shown to an editor, and may be any values. -/
structure PropertyRule where
  valueType : ValueType
  options : List Value
  operators : List Value
  itemRules : List (String × PropertyRule)
  needsSubConditions : Bool

namespace PropertyRule

/-- A rule that calls for sub-conditions has to offer properties for them. -/
def build (valueType : ValueType) (options operators : List Value)
    (itemRules : List (String × PropertyRule)) (needsSubConditions : Bool) :
    Except ValueType PropertyRule :=
  if needsSubConditions && itemRules.isEmpty then .error valueType
  else .ok ⟨valueType, options, operators, itemRules, needsSubConditions⟩

/-- Operators as they are shown. -/
def labels (operators : List Operator) : List Value := operators.map fun op => .text op.label

def numericOperators : List Value :=
  labels [.equals, .doesNotEqual, .greaterThan, .lessThan, .atLeast, .atMost, .isEmpty, .isNotEmpty]

def textOperators : List Value :=
  labels [.startsWith, .endsWith, .contains, .matches, .doesNotMatch, .lengthEquals, .lengthBelow,
    .isEmpty, .isNotEmpty]

def dateOperators : List Value :=
  labels [.isBefore, .isAfter, .isOn, .isEmpty, .isNotEmpty]

/-- The operators that a kind of value has when its rule names none. -/
def usualOperators : ValueType → List Value
  | .numeric => numericOperators
  | .text => textOperators
  | _ => []

/-- The operators that an editor may offer. -/
def offered (rule : PropertyRule) : List Value :=
  if rule.operators.isEmpty then usualOperators rule.valueType else rule.operators

mutual

/-- A rule as it is answered. Options, rules of items and the call for sub-conditions are left out
where there are none. -/
def toValue : PropertyRule → Value
  | ⟨valueType, options, operators, itemRules, needs⟩ =>
    let shown := if operators.isEmpty then usualOperators valueType else operators
    let optionEntry := if options.isEmpty then [] else [("options", .list options)]
    let itemEntry :=
      if itemRules.isEmpty then [] else [("subConditionProperties", .dict (toEntries itemRules))]
    let needEntry := if needs then [("requiresSubConditions", .bool true)] else []
    .dict ([("valueType", .text valueType.label), ("operators", .list shown)] ++ optionEntry ++
      itemEntry ++ needEntry)

/-- The entries of the rules of named properties. -/
def toEntries : List (String × PropertyRule) → List (String × Value)
  | [] => []
  | (name, rule) :: rest => (name, toValue rule) :: toEntries rest

end

end PropertyRule
end CourseAudit
