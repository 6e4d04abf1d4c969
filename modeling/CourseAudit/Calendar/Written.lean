import CourseAudit.Calendar.Date
import CourseAudit.Text.Blank
import CourseAudit.Text.Digit

/-!
Dates as people write them. A form is a row of pieces; each piece offers the ways it can begin a
text, in order of preference, and the first row that fits throughout is the only one considered.
-/
namespace CourseAudit.Written

inductive Piece
  | year | month | day | monthName | gap
  | mark (c : Char)
deriving DecidableEq, Repr

/-- What has been read so far. -/
structure Parts where
  year : Nat
  month : Nat
  day : Nat
deriving Repr

def monthNames : List String :=
  ["january", "february", "march", "april", "may", "june", "july", "august", "september",
    "october", "november", "december"]

/-- A digit from `low` to `high`, of the common script. -/
def between (low high : Char) (c : Char) : Bool := decide (low ≤ c) && decide (c ≤ high)

/-- A first character and a second one of given classes, as a number. -/
def twoDigits (first second : Char → Bool) : List Char → List (Nat × List Char)
  | a :: b :: rest => if first a && second b then [(Text.digitsValue [a, b], rest)] else []
  | _ => []

def oneDigit : List Char → List (Nat × List Char)
  | a :: rest => if between '1' '9' a then [(Text.digitsValue [a], rest)] else []
  | [] => []

/-- Numbers from 1 to 12, with or without a leading zero. -/
def months (cs : List Char) : List (Nat × List Char) :=
  twoDigits (· == '1') (between '0' '2') cs ++ twoDigits (· == '0') (between '1' '9') cs ++
    oneDigit cs

/-- Numbers from 1 to 31, with or without a leading zero or one leading space. -/
def days (cs : List Char) : List (Nat × List Char) :=
  twoDigits (· == '3') (between '0' '1') cs ++
    twoDigits (between '1' '2') Text.isDecimalDigit cs ++
    twoDigits (· == '0') (between '1' '9') cs ++ oneDigit cs ++
    twoDigits (· == ' ') (between '1' '9') cs

/-- Four digits of any script. -/
def years (cs : List Char) : List (Nat × List Char) :=
  let digits := cs.take 4
  if digits.length = 4 ∧ digits.all Text.isDecimalDigit = true then
    [(Text.digitsValue digits, cs.drop 4)]
  else []

/-- Full month names in any mixture of capitals and small letters. -/
def namedMonths (cs : List Char) : List (Nat × List Char) :=
  (monthNames.zipIdx 1).filterMap fun (name, number) =>
    let size := name.length
    if (cs.take size).map Char.toLower = name.toList then some (number, cs.drop size) else none

/-- One blank or more, as many as possible first. -/
def gaps (cs : List Char) : List (List Char) :=
  let width := (cs.takeWhile Text.isBlank).length
  (List.range width).reverse.map fun n => cs.drop (n + 1)

/-- The ways a piece can begin a text. -/
def Piece.readings (piece : Piece) (parts : Parts) (cs : List Char) : List (Parts × List Char) :=
  match piece with
  | .year => (years cs).map fun (n, rest) => ({ parts with year := n }, rest)
  | .month => (months cs).map fun (n, rest) => ({ parts with month := n }, rest)
  | .day => (days cs).map fun (n, rest) => ({ parts with day := n }, rest)
  | .monthName => (namedMonths cs).map fun (n, rest) => ({ parts with month := n }, rest)
  | .gap => (gaps cs).map fun rest => (parts, rest)
  | .mark c => if cs.head? = some c then [(parts, cs.drop 1)] else []

/-- The first reading of a row of pieces. -/
def readPieces : List Piece → Parts → List Char → Option (Parts × List Char)
  | [], parts, cs => some (parts, cs)
  | piece :: pieces, parts, cs =>
    (piece.readings parts cs).findSome? fun (parts, rest) => readPieces pieces parts rest

/-- The date that a text writes in a form, if it is that form from end to end. -/
def readForm (form : List Piece) (cs : List Char) : Option CivilDate :=
  match readPieces form ⟨0, 0, 0⟩ cs with
  | some (parts, []) => CivilDate.ofParts? parts.year parts.month parts.day
  | _ => none

/-- Slashes with the month first or the year first, hyphens with the month first, and names of
months with the day before or after. -/
def forms : List (List Piece) :=
  [[.month, .mark '/', .day, .mark '/', .year],
    [.year, .mark '/', .month, .mark '/', .day],
    [.month, .mark '-', .day, .mark '-', .year],
    [.day, .gap, .monthName, .gap, .year],
    [.monthName, .gap, .day, .mark ',', .gap, .year]]

/-- The date of the first form that a text is written in. -/
def read (cs : List Char) : Option CivilDate := forms.findSome? fun form => readForm form cs

end CourseAudit.Written
