/-!
What a property accepts as a value, how an outcome is shown, and what kind of outcome it is.
-/
namespace CourseAudit

/-- The kind of value that a property accepts. -/
inductive ValueType
  | none | select | numeric | text | date
deriving DecidableEq, Repr

namespace ValueType

/-- Every member, in order of declaration. -/
def all : List ValueType :=
  [.none, .select, .numeric, .text, .date]

/-- The name that tasks and answers use. -/
def label : ValueType → String
  | .none => "none"
  | .select => "select"
  | .numeric => "numeric"
  | .text => "string"
  | .date => "date"

/-- The member with a label. -/
def ofLabel? (s : String) : Option ValueType := all.find? (·.label == s)

end ValueType

/-- How the outcome of a task is shown. -/
inductive DisplayType
  | yesNo | number | fraction | percent | date | statusLabel
deriving DecidableEq, Repr

namespace DisplayType

/-- Every member, in order of declaration. -/
def all : List DisplayType :=
  [.yesNo, .number, .fraction, .percent, .date, .statusLabel]

/-- The name that tasks and answers use. -/
def label : DisplayType → String
  | .yesNo => "Yes/No"
  | .number => "Number"
  | .fraction => "Fraction"
  | .percent => "Percent"
  | .date => "Date"
  | .statusLabel => "Status Label"

/-- The name under which the member is written inside other texts. -/
def constant : DisplayType → String
  | .yesNo => "DisplayType.YES_NO"
  | .number => "DisplayType.NUMBER"
  | .fraction => "DisplayType.FRACTION"
  | .percent => "DisplayType.PERCENT"
  | .date => "DisplayType.DATE"
  | .statusLabel => "DisplayType.STATUS_LABEL"

/-- The member with a label. -/
def ofLabel? (s : String) : Option DisplayType := all.find? (·.label == s)

end DisplayType

/-- The kind of result that a pass or a failure is shown as. -/
inductive ResultType
  | pass | warning | fail | custom
deriving DecidableEq, Repr

namespace ResultType

/-- Every member, in order of declaration. -/
def all : List ResultType :=
  [.pass, .warning, .fail, .custom]

/-- The name that tasks and answers use. -/
def label : ResultType → String
  | .pass => "Pass"
  | .warning => "Warning"
  | .fail => "Fail"
  | .custom => "Custom"

/-- The name under which the member is written inside other texts. -/
def constant : ResultType → String
  | .pass => "ConditionResultType.PASS"
  | .warning => "ConditionResultType.WARNING"
  | .fail => "ConditionResultType.FAIL"
  | .custom => "ConditionResultType.CUSTOM"

/-- The member with a label. -/
def ofLabel? (s : String) : Option ResultType := all.find? (·.label == s)

end ResultType

end CourseAudit
