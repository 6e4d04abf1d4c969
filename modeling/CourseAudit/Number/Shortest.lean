import CourseAudit.Number.Binary64

/-!
The decimal text of a binary number: the fewest significant digits that read back as the same
number, and of those the nearest to it. `DecimalForm` fixes where the point or an exponent is
written.
-/
namespace CourseAudit.Binary64

/-- The exponent of the leading decimal digit of a positive ratio. -/
def decimalPlace (num den : Nat) : Int :=
  if den ≤ num then (digitCount (num / den) : Int) - 1
  else -(digitCount ((den + num - 1) / num - 1) : Int)

/-- The quotient of `num / den` by `10 ^ k`, as a ratio. -/
def scaleDecimal (num den : Nat) (k : Int) : Nat × Nat :=
  if k < 0 then (num * Nat.pow 10 (-k).toNat, den) else (num, den * Nat.pow 10 k.toNat)

/-- Of the two decimals of place `k` around a number, those that read back, the nearer first
and the even one on a tie. -/
def decimalNear? (significand : Nat) (exponent k : Int) : Option Nat :=
  let ratio := magnitude significand exponent
  let scaled := scaleDecimal ratio.1 ratio.2 k
  let low := scaled.1 / scaled.2
  let above := compare (2 * scaled.1) ((2 * low + 1) * scaled.2)
  let lowFirst := above == .lt || (above == .eq && low % 2 == 0)
  let candidates := if lowFirst then [low, low + 1] else [low + 1, low]
  candidates.find? fun digits => ofDecimal false digits k == .finite false significand exponent

/-- Significant digits and the place of the last, for a positive number; seventeen digits
always read back. -/
def shortest (significand : Nat) (exponent : Int) : Nat × Int :=
  let ratio := magnitude significand exponent
  let lead := decimalPlace ratio.1 ratio.2
  let places := (List.range 17).map fun (n : Nat) => lead - (n : Int)
  match places.findSome? fun k => (decimalNear? significand exponent k).map (·, k) with
  | some found => found
  | none => (0, 0)

/-- Drops trailing zero digits, `fuel` of them at most. -/
def dropZeros (digits : Nat) (place : Int) : Nat → Nat × Int
  | 0 => (digits, place)
  | fuel + 1 =>
    if digits ≠ 0 ∧ digits % 10 = 0 then dropZeros (digits / 10) (place + 1) fuel
    else (digits, place)

/-- Where a decimal text is written with a point and how wide an exponent is at least. -/
structure DecimalForm where
  lowestPoint : Int
  highestPoint : Int
  exponentWidth : Nat
deriving Repr

/-- From a ten-thousandth up to sixteen whole digits a number is written with a point, and an
exponent has two digits or more. -/
def decimalForm : DecimalForm := ⟨-3, 16, 2⟩

def padLeft (width : Nat) (digits : List Char) : List Char :=
  List.replicate (width - digits.length) '0' ++ digits

/-- Digits with the point after the first `point` of them; a whole number keeps one zero. -/
def pointed (digits : List Char) (point : Int) : List Char :=
  if point ≤ 0 then '0' :: '.' :: (List.replicate (-point).toNat '0' ++ digits)
  else
    let whole := digits.take point.toNat
    let rest := digits.drop point.toNat
    whole ++ List.replicate (point.toNat - digits.length) '0' ++
      '.' :: (if rest.isEmpty then ['0'] else rest)

/-- One digit, the others after a point, and the signed exponent. -/
def exponential (form : DecimalForm) (digits : List Char) (exponent : Int) : List Char :=
  let fraction := match digits.drop 1 with
    | [] => []
    | rest => '.' :: rest
  digits.take 1 ++ fraction ++ 'e' :: (if exponent < 0 then '-' else '+') ::
    padLeft form.exponentWidth (Nat.toDigits 10 exponent.natAbs)

/-- The text of a magnitude. -/
def writeMagnitude (form : DecimalForm) (significand : Nat) (exponent : Int) : List Char :=
  if significand = 0 then ['0', '.', '0']
  else
    let found := shortest significand exponent
    let trimmed := dropZeros found.1 found.2 (digitCount found.1)
    let digits := Nat.toDigits 10 trimmed.1
    let point := digits.length + trimmed.2
    if form.lowestPoint ≤ point ∧ point ≤ form.highestPoint then pointed digits point
    else exponential form digits (point - 1)

/-- The text of a number; a whole number keeps its `.0`. -/
def toText : Binary64 → String
  | .finite negative m e =>
    String.ofList ((if negative then ['-'] else []) ++ writeMagnitude decimalForm m e)
  | .infinite negative => if negative then "-inf" else "inf"
  | .nan _ => "nan"

end CourseAudit.Binary64
