import CourseAudit.Calendar.Iso
import CourseAudit.Calendar.Written
import CourseAudit.Fault
import CourseAudit.Number.Numeral
import CourseAudit.Value.Written

/-!
What a value counts as: a number, a date, something present, a text to show and a text to compare.
Coercions to numbers and dates give nothing for values that are neither; an integer beyond the
range of numbers is a fault, and so is a value that has to be written and cannot be.
-/
namespace CourseAudit

/-- What stands in for a value that is not there. -/
def notAvailable : String := "N/A"

/-- The number nearest to an integer, as long as one is near. -/
def Binary64.ofInt? (i : Int) : Except Fault Binary64 :=
  match ofInt i with
  | .finite s m e => .ok (.finite s m e)
  | _ => .error .overflow

namespace Value

/-- The number that a value counts as. Booleans count as none; a text counts by the numeral at its
head, which may lie beyond all finite numbers. -/
def toNumber : Value → Except Fault (Option Binary64)
  | .int i => (Binary64.ofInt? i).map some
  | .float x => .ok (if x.isFinite then some x else none)
  | .text s => .ok (Numeral.read s)
  | .choice c => .ok (Numeral.read c.label)
  | _ => .ok none

/-- The date that a text writes: a standard date or time first, then the written forms. -/
def dateOfText (s : String) : Option CivilDate :=
  let cs := Text.trimBoth Text.isBlank s.toList
  if cs.isEmpty then none
  else
    let universal := cs.flatMap fun c => if c = 'Z' then "+00:00".toList else [c]
    match Iso.read universal with
    | some t => some t.date
    | none => Written.read cs

/-- The calendar date that a value counts as. -/
def toDate : Value → Option CivilDate
  | .moment t => some t.date
  | .date d => some d
  | .text s => dateOfText s
  | .choice c => dateOfText c.label
  | _ => none

/-- How a value is shown: whole numbers without a point, dates in the standard form. -/
def display : Value → Except Fault String
  | .null => .ok notAvailable
  | .bool b => .ok (if b then "true" else "false")
  | .float x =>
    match x.toInt? with
    | some i => .ok (toString i)
    | none => .ok x.toText
  | .date d => .ok d.iso
  | .moment t => .ok t.iso
  | v => v.write

/-- The small letters by which texts are compared. -/
def comparable : Value → Except Fault String
  | .null => .ok ""
  | .bool b => .ok (if b then "true" else "false")
  | .float x =>
    match x.toInt? with
    | some i => .ok (toString i)
    | none => .ok (Text.lower x.toText)
  | v => v.write.map Text.lower

/-- Nothing but blanks, or a collection of nothing. -/
def isBlank : Value → Bool
  | .text s => Text.isBlankText s
  | .choice c => Text.isBlankText c.label
  | .list items | .tuple items => items.isEmpty
  | .dict entries => entries.isEmpty
  | _ => false

/-- Whether a value counts as present: texts unless they are blank, others when they are set. -/
def isPresent : Value → Bool
  | .text s => !Text.isBlankText s
  | .choice c => !Text.isBlankText c.label
  | v => v.isSet

end Value

/-- The whole number below or at a number. -/
def Binary64.floor (x : Binary64) : Except Fault Int :=
  match x.floor? with
  | some i => .ok i
  | none => .error (if x.isNan then .meaningless else .overflow)

/-- One half. -/
def Binary64.half : Binary64 := ofRatio false 1 2

/-- A share in percent, rounded half up; nothing when either side is no number or the whole is
zero. -/
def percentOf (count whole : Value) : Except Fault (Option Int) := do
  let numerator ← count.toNumber
  let total ← whole.toNumber
  match numerator, total with
  | some n, some t =>
    if t.isZero then return none
    else return some (← (((n.div t).mul (Binary64.ofInt 100)).add Binary64.half).floor)
  | _, _ => return none

/-- Month, day and year of a value that counts as a date. -/
def displayDate (v : Value) : String :=
  match v.toDate with
  | some d => d.slashed
  | none => notAvailable

end CourseAudit
