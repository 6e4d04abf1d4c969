import CourseAudit.Fault
import CourseAudit.Number.Shortest
import CourseAudit.Text.Quoted
import CourseAudit.Value.Basic

/-!
The text of a value. A text stands for itself, and inside a list or a dict it is quoted; dates
inside collections are written by their parts. A value is not written when an integer in it is too
long, or when values lie too deep within one another.
-/
namespace CourseAudit.Value

/-- Texts joined by commas. -/
def joined (parts : List String) : String := String.intercalate ", " parts

/-- A span of time in days, seconds and microseconds, those that are not zero. -/
def spanText (micros : Int) : String :=
  let days := Int.fdiv micros 86400000000
  let rest := Int.fmod micros 86400000000
  let seconds := rest / 1000000
  let fraction := rest % 1000000
  let part (name : String) (n : Int) : List String :=
    if n = 0 then [] else [name ++ "=" ++ toString n]
  match part "days" days ++ part "seconds" seconds ++ part "microseconds" fraction with
  | [] => "datetime.timedelta(0)"
  | parts => "datetime.timedelta(" ++ joined parts ++ ")"

/-- An offset from universal time by its span. -/
def zoneText (offset : Int) : String :=
  if offset = 0 then "datetime.timezone.utc" else "datetime.timezone(" ++ spanText offset ++ ")"

def dateParts (d : CivilDate) : List String := [toString d.year, toString d.month, toString d.day]

/-- The parts of a moment; seconds and microseconds are left out where all that follows is zero. -/
def momentParts (t : Timestamp) : List String :=
  let seconds := if t.second = 0 ∧ t.micro = 0 then [] else [toString t.second]
  let micros := if t.micro = 0 then [] else [toString t.micro]
  let zone := match t.offset with
    | some offset => ["tzinfo=" ++ zoneText offset]
    | none => []
  dateParts t.date ++ [toString t.hour, toString t.minute] ++ seconds ++ micros ++ zone

mutual

/-- The text of a value inside a collection. -/
def inner : Value → String
  | .null => "None"
  | .bool b => if b then "True" else "False"
  | .int i => toString i
  | .float x => x.toText
  | .text s => Text.quoted s
  | .list items => "[" ++ joined (innerList items) ++ "]"
  | .tuple [item] => "(" ++ inner item ++ ",)"
  | .tuple items => "(" ++ joined (innerList items) ++ ")"
  | .dict entries => "\x7b" ++ joined (innerEntries entries) ++ "\x7d"
  | .date d => "datetime.date(" ++ joined (dateParts d) ++ ")"
  | .moment t => "datetime.datetime(" ++ joined (momentParts t) ++ ")"
  | .choice c => "<" ++ c.constant ++ ": " ++ Text.quoted c.label ++ ">"

def innerList : List Value → List String
  | [] => []
  | v :: vs => inner v :: innerList vs

def innerEntries : List (String × Value) → List String
  | [] => []
  | (name, v) :: rest => (Text.quoted name ++ ": " ++ inner v) :: innerEntries rest

end

/-- The text of a value on its own. -/
def toText : Value → String
  | .text s => s
  | .choice c => c.constant
  | .date d => d.iso
  | .moment t => t.textWith " "
  | v => inner v

/-- Integers of more decimal digits are not written. -/
def writtenDigits : Nat := 4300

/-- Values that lie deeper within one another are not written. How deep a writer gets depends on
what else is under way; it gets so deep in a comparison that is nothing but that. -/
def writtenLevels : Nat := 991

/-- Whether an integer has more digits than are written. -/
def isLong (i : Int) : Bool := writtenDigits < (Nat.toDigits 10 i.natAbs).length

mutual

/-- What keeps a value from being written, with room for so many values within one another: a long
integer, or a value that there is no room for. What comes first in the text counts. -/
def obstacle? (room : Nat) : Value → Option Fault
  | .int i => if room = 0 then some .tooDeep else if isLong i then some .meaningless else none
  | .list items | .tuple items =>
    if room = 0 then some .tooDeep else obstacleOfItems? (room - 1) items
  | .dict entries => if room = 0 then some .tooDeep else obstacleOfEntries? (room - 1) entries
  | _ => if room = 0 then some .tooDeep else none

def obstacleOfItems? (room : Nat) : List Value → Option Fault
  | [] => none
  | v :: rest => (v.obstacle? room).or (obstacleOfItems? room rest)

def obstacleOfEntries? (room : Nat) : List (String × Value) → Option Fault
  | [] => none
  | (_, v) :: rest => (v.obstacle? room).or (obstacleOfEntries? room rest)

end

/-- The text of a value as it is written, unless something keeps it from being. -/
def write (v : Value) : Except Fault String :=
  match v.obstacle? writtenLevels with
  | some fault => .error fault
  | none => .ok v.toText

end CourseAudit.Value
