/-!
What is wrong with a payload, and where. Every issue names its place by the path from the payload
to the value at fault.
-/
namespace CourseAudit

/-- The kind of an issue. -/
inductive IssueKind
  | missing | notText | notInteger | integerText | integerSize | fractional | notFinite | notNumber
  | numberText | notFlag | flagText | notMember | notLiteral | notList | notTable | notRecord
  | tooSmall | tooLarge | notDate | dateText | dateInexact
  | yearZero | brokenText
deriving DecidableEq, Repr

/-- The name under which a kind of issue is reported. -/
def IssueKind.label : IssueKind → String
  | .missing => "missing"
  | .notText => "string_type"
  | .notInteger => "int_type"
  | .integerText => "int_parsing"
  | .integerSize => "int_parsing_size"
  | .fractional => "int_from_float"
  | .notFinite => "finite_number"
  | .notNumber => "float_type"
  | .numberText => "float_parsing"
  | .notFlag => "bool_type"
  | .flagText => "bool_parsing"
  | .notMember => "enum"
  | .notLiteral => "literal_error"
  | .notList => "list_type"
  | .notTable => "dict_type"
  | .notRecord => "model_type"
  | .tooSmall => "greater_than_equal"
  | .tooLarge => "less_than_equal"
  | .notDate => "date_type"
  | .dateText => "date_from_datetime_parsing"
  | .dateInexact => "date_from_datetime_inexact"
  | .yearZero => "date_parsing"
  | .brokenText => "string_unicode"

/-- A step from a value to a part of it. -/
inductive Place
  | key (name : String)
  | item (index : Nat)
deriving DecidableEq, Repr

/-- Something wrong at the end of a path. -/
structure Issue where
  kind : IssueKind
  path : List Place
deriving DecidableEq, Repr

/-- The issue as seen from the value that holds the one at fault. -/
def Issue.under (place : Place) (i : Issue) : Issue := { i with path := place :: i.path }

end CourseAudit
