import CourseAudit.Calendar.Timestamp
import CourseAudit.Number.Binary64
import CourseAudit.Vocabulary.Choice

/-!
Values that a task or a section may hold: whatever an editor or another system puts there.
-/
namespace CourseAudit

/-- Entries of a `dict` keep the order in which their names came first. -/
inductive Value
  | null
  | bool (b : Bool)
  | int (i : Int)
  | float (x : Binary64)
  | text (s : String)
  | list (items : List Value)
  | tuple (items : List Value)
  | dict (entries : List (String × Value))
  | date (d : CivilDate)
  | moment (t : Timestamp)
  | choice (c : Choice)
deriving Repr, Inhabited

namespace Value

/-- The text of a text or of a choice. -/
def asText? : Value → Option String
  | .text s => some s
  | .choice c => some c.label
  | _ => none

/-- Texts as a list. -/
def texts (names : List String) : Value := .list (names.map .text)

def isNull : Value → Bool
  | .null => true
  | _ => false

/-- The value of a name; names of a dict occur once. -/
def get? (entries : List (String × Value)) (name : String) : Option Value :=
  (entries.find? (·.1 == name)).map (·.2)

/-- Replaces the value of a name in its place, or adds the name at the end. -/
def put (name : String) (value : Value) : List (String × Value) → List (String × Value)
  | [] => [(name, value)]
  | entry :: rest => if entry.1 = name then (name, value) :: rest else entry :: put name value rest

/-- Whether a value counts as set: not null, not false, not zero and not empty. -/
def isSet : Value → Bool
  | .null => false
  | .bool b => b
  | .int i => i != 0
  | .float x => !x.isZero
  | .text s => !s.isEmpty
  | .list items | .tuple items => !items.isEmpty
  | .dict entries => !entries.isEmpty
  | .date _ | .moment _ => true
  | .choice c => !c.label.isEmpty

mutual

/-- How many values lie within one another, a value that holds none counting as one. -/
def levels : Value → Nat
  | .list items | .tuple items => levelsOfItems items + 1
  | .dict entries => levelsOfEntries entries + 1
  | _ => 1

def levelsOfItems : List Value → Nat
  | [] => 0
  | v :: rest => max v.levels (levelsOfItems rest)

def levelsOfEntries : List (String × Value) → Nat
  | [] => 0
  | (_, v) :: rest => max v.levels (levelsOfEntries rest)

end

end Value
end CourseAudit
