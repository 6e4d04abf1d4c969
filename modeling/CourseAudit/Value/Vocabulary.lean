import CourseAudit.Fault
import CourseAudit.Value.Written

/-!
Values read as members of the vocabularies. A choice of the right vocabulary is its own member;
texts are read by their labels, each vocabulary in its own way.
-/
namespace CourseAudit

namespace Value

mutual

/-- Whether a value can be a key of a table; what holds a list or a dict cannot. -/
def isKey : Value → Bool
  | .list _ | .dict _ => false
  | .tuple items => areKeys items
  | _ => true

def areKeys : List Value → Bool
  | [] => true
  | v :: vs => isKey v && areKeys vs

end

/-- The name under which a value is looked up in a table of names; what is no key is a fault, and
other values are never found. -/
def key (v : Value) : Except Fault (Option String) :=
  if v.isKey then .ok v.asText? else .error .mismatch

/-- What a value is gone through by: the items of a list, the characters of a text, the names of a
dict. Nothing else has members. -/
def members : Value → Except Fault (List Value)
  | .list items | .tuple items => .ok items
  | .text s => .ok (s.toList.map fun c => .text (String.singleton c))
  | .choice c => .ok (c.label.toList.map fun c => .text (String.singleton c))
  | .dict entries => .ok (entries.map fun entry => .text entry.1)
  | _ => .error .mismatch

end Value

/-- The operator that a value names. -/
def Operator.ofValue? : Value → Option Operator
  | .choice (.operator o) => some o
  | v => v.asText?.bind ofText?

/-- Whether a value names an operator that compares with another value. Any key that is set and no
label of a value-free operator counts, known or not. -/
def Operator.requiresValue (v : Value) : Test :=
  if v.isSet then do
    match ← v.key with
    | some s => return !(((Operator.ofLabel? s).map Operator.isValueFree).getD false)
    | none => return true
  else .ok false

/-- A label without blanks and low lines, in small letters. -/
def GroupType.squeezed (s : String) : String :=
  Text.lower (String.ofList (s.toList.filter fun c => c ≠ ' ' ∧ c ≠ '_'))

/-- The group type that a text names, whatever its spelling of words. -/
def GroupType.ofText? (s : String) : Option GroupType :=
  all.find? fun g => squeezed g.label == squeezed s

/-- The group type that a value names by its text. -/
def GroupType.ofValue? : Value → Except Fault (Option GroupType)
  | .null => .ok none
  | .choice (.group g) => .ok (some g)
  | v => v.write.map ofText?

/-- The display type that a value names. -/
def DisplayType.ofValue? (v : Value) : Option DisplayType := v.asText?.bind ofLabel?

end CourseAudit
