import CourseAudit.Number.Binary64
import CourseAudit.Text.Blank
import CourseAudit.Text.Digit

/-!
Numbers at the head of a text: an optional sign, digits of any script with an optional point, and
an optional exponent. Commas between digits are dropped beforehand, and what follows the number
is not looked at.
-/
namespace CourseAudit.Numeral

/-- A sign and what follows it. -/
def takeSign : List Char → Bool × List Char
  | '-' :: cs => (true, cs)
  | '+' :: cs => (false, cs)
  | cs => (false, cs)

/-- An exponent counts only with at least one digit. -/
def takeExponent (cs : List Char) : Int :=
  match cs with
  | c :: rest =>
    if c = 'e' ∨ c = 'E' then
      let signed := takeSign rest
      let value : Int := Text.digitsValue (signed.2.takeWhile Text.isDecimalDigit)
      if signed.1 then -value else value
    else 0
  | [] => 0

/-- The parts of a numeral: sign, digits before and after the point, exponent. -/
structure Parts where
  negative : Bool
  whole : List Char
  fraction : List Char
  exponent : Int

/-- The numeral at the head of a text. -/
def split? (cs : List Char) : Option Parts :=
  let signed := takeSign cs
  let whole := signed.2.takeWhile Text.isDecimalDigit
  let rest := signed.2.dropWhile Text.isDecimalDigit
  let pointed := rest.head? == some '.'
  let fraction := if pointed then (rest.drop 1).takeWhile Text.isDecimalDigit else []
  let rest := if pointed then (rest.drop 1).dropWhile Text.isDecimalDigit else rest
  if whole.isEmpty && fraction.isEmpty then none
  else some ⟨signed.1, whole, fraction, takeExponent rest⟩

def Parts.value (p : Parts) : Binary64 :=
  Binary64.ofDecimal p.negative (Text.digitsValue (p.whole ++ p.fraction))
    (p.exponent - p.fraction.length)

/-- The number at the head of a text without outer blanks and commas. -/
def read (s : String) : Option Binary64 :=
  (split? ((Text.trimBoth Text.isBlank s.toList).filter (· ≠ ','))).map Parts.value

end CourseAudit.Numeral
