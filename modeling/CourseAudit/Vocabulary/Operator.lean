import CourseAudit.Text.Blank
import CourseAudit.Text.Case

/-!
The operators of conditions. An operator is written by its label, in any mixture of capitals and
small letters and with blanks around it.
-/
namespace CourseAudit

/-- How a condition compares a value with another, or judges it alone. -/
inductive Operator
  | is | isNot | equals | doesNotEqual | greaterThan | lessThan | atLeast | atMost | isEmpty
  | isNotEmpty | startsWith | endsWith | contains | matches | doesNotMatch | lengthEquals
  | lengthBelow | isBefore | isAfter | isOn | isPresent | isNotPresent | isTrue | isFalse
  | exists | doesNotExist | isPublished | isNotPublished | isComplete | isNotComplete
  | isActive | isInactive
deriving DecidableEq, Repr

namespace Operator

/-- Every member, in order of declaration. -/
def all : List Operator :=
  [.is, .isNot, .equals, .doesNotEqual, .greaterThan, .lessThan, .atLeast, .atMost, .isEmpty,
    .isNotEmpty, .startsWith, .endsWith, .contains, .matches, .doesNotMatch, .lengthEquals,
    .lengthBelow, .isBefore, .isAfter, .isOn, .isPresent, .isNotPresent, .isTrue, .isFalse,
    .exists, .doesNotExist, .isPublished, .isNotPublished, .isComplete, .isNotComplete, .isActive,
    .isInactive]

/-- The name that tasks and answers use. -/
def label : Operator → String
  | .is => "Is"
  | .isNot => "Is not"
  | .equals => "Equals"
  | .doesNotEqual => "Does not equal"
  | .greaterThan => "Is greater than"
  | .lessThan => "Is less than"
  | .atLeast => "Is greater than or equal to"
  | .atMost => "Is less than or equal to"
  | .isEmpty => "Is empty"
  | .isNotEmpty => "Is not empty"
  | .startsWith => "Starts with"
  | .endsWith => "Ends with"
  | .contains => "Contains"
  | .matches => "Matches"
  | .doesNotMatch => "Does not match"
  | .lengthEquals => "Character count equals"
  | .lengthBelow => "Character count less than"
  | .isBefore => "Is before"
  | .isAfter => "Is after"
  | .isOn => "Is on"
  | .isPresent => "Is present"
  | .isNotPresent => "Is not present"
  | .isTrue => "Is true"
  | .isFalse => "Is false"
  | .exists => "Exists"
  | .doesNotExist => "Does not exist"
  | .isPublished => "Is published"
  | .isNotPublished => "Is not published"
  | .isComplete => "Is complete"
  | .isNotComplete => "Is not complete"
  | .isActive => "Is Active"
  | .isInactive => "Is Inactive"

/-- The name under which the member is written inside other texts. -/
def constant : Operator → String
  | .is => "Operator.IS"
  | .isNot => "Operator.IS_NOT"
  | .equals => "Operator.EQUALS"
  | .doesNotEqual => "Operator.DOES_NOT_EQUAL"
  | .greaterThan => "Operator.GREATER_THAN"
  | .lessThan => "Operator.LESS_THAN"
  | .atLeast => "Operator.GREATER_THAN_OR_EQUAL"
  | .atMost => "Operator.LESS_THAN_OR_EQUAL"
  | .isEmpty => "Operator.IS_EMPTY"
  | .isNotEmpty => "Operator.IS_NOT_EMPTY"
  | .startsWith => "Operator.STARTS_WITH"
  | .endsWith => "Operator.ENDS_WITH"
  | .contains => "Operator.CONTAINS"
  | .matches => "Operator.MATCHES"
  | .doesNotMatch => "Operator.DOES_NOT_MATCH"
  | .lengthEquals => "Operator.CHARACTER_COUNT_EQUALS"
  | .lengthBelow => "Operator.CHARACTER_COUNT_LESS_THAN"
  | .isBefore => "Operator.IS_BEFORE"
  | .isAfter => "Operator.IS_AFTER"
  | .isOn => "Operator.IS_ON"
  | .isPresent => "Operator.IS_PRESENT"
  | .isNotPresent => "Operator.IS_NOT_PRESENT"
  | .isTrue => "Operator.IS_TRUE"
  | .isFalse => "Operator.IS_FALSE"
  | .exists => "Operator.EXISTS"
  | .doesNotExist => "Operator.DOES_NOT_EXIST"
  | .isPublished => "Operator.IS_PUBLISHED"
  | .isNotPublished => "Operator.IS_NOT_PUBLISHED"
  | .isComplete => "Operator.IS_COMPLETE"
  | .isNotComplete => "Operator.IS_NOT_COMPLETE"
  | .isActive => "Operator.IS_ACTIVE"
  | .isInactive => "Operator.IS_INACTIVE"

/-- The member with a label. -/
def ofLabel? (s : String) : Option Operator := all.find? (·.label == s)

end Operator

namespace Operator

/-- The operator that a text names: the exact label first, then the label whatever its case. -/
def ofText? (s : String) : Option Operator :=
  if s.isEmpty then none
  else
    match ofLabel? s with
    | some op => some op
    | none => all.find? fun op => Text.lower op.label == Text.lower (Text.trim s)

/-- Operators that judge a value alone. -/
def isValueFree : Operator → Bool
  | .isPublished | .isNotPublished | .isComplete | .isNotComplete | .isPresent | .isNotPresent
  | .isEmpty | .isNotEmpty | .isTrue | .isFalse | .isActive | .isInactive | .exists
  | .doesNotExist => true
  | _ => false

end Operator
end CourseAudit
