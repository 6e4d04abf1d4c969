import CourseAudit.Payload.Issue
import CourseAudit.Value.Coercion

/-!
Plain values in payloads. Numbers and flags may also be given as texts, integers as numbers
without a fraction, and numbers and integers as flags; everything else is an issue.
-/
namespace CourseAudit.Payload

/-- A text; nothing else is one. -/
def readText (v : Value) : Except IssueKind String :=
  match v.asText? with
  | some s => .ok s
  | none => .error .notText

/-- What is left of a numeral after a leading zero, where more zeros and low lines are passed over:
the first other digit or sign and what follows it. The character before the point, or before the
end, stays. -/
def afterZero (last : Char) : List Char → Option (List Char)
  | [] => some [last]
  | c :: rest =>
    if c == '0' || c == '_' then afterZero c rest
    else if c.isDigit || c == '-' then some (c :: rest)
    else if c == '.' then some (last :: c :: rest)
    else none

/-- A numeral without its leading zeros; nothing for what does not begin like one. -/
def dropZeros : List Char → Option (List Char)
  | '0' :: rest => afterZero '0' rest
  | c :: rest => if c.isDigit || c == '-' then some (c :: rest) else none
  | [] => none

/-- A sign stands apart from the leading zeros behind it. -/
def dropSignedZeros : List Char → Option (List Char)
  | '+' :: '-' :: _ => none
  | '+' :: rest => dropZeros rest
  | '-' :: rest => (dropZeros rest).map ('-' :: ·)
  | cs => dropZeros cs

/-- A fraction of zeros is dropped with its point. -/
def dropZeroFraction (cs : List Char) : List Char :=
  match cs.dropWhile (· != '.') with
  | _ :: c :: fraction =>
    if (c :: fraction).all (· == '0') then cs.takeWhile (· != '.') else cs
  | _ => cs

/-- Whether low lines stand side by side somewhere. -/
def hasDoubledLine : List Char → Bool
  | '_' :: '_' :: _ => true
  | _ :: rest => hasDoubledLine rest
  | [] => false

/-- Single low lines between other characters are dropped. -/
def dropLines (cs : List Char) : Option (List Char) :=
  if cs.head? == some '_' || cs.getLast? == some '_' || hasDoubledLine cs then none
  else some (cs.filter (· != '_'))

/-- The most characters that a numeral may have, its sign counted. -/
def numeralLimit : Nat := 4300

/-- An integer written in decimal digits. A numeral that is too long is refused before what follows
it is looked at. -/
def ofDigits (cs : List Char) : Except IssueKind Int :=
  let negative := cs.head? == some '-'
  let body := if negative then cs.drop 1 else cs
  let digits := body.takeWhile Char.isDigit
  let sign := if negative then 1 else 0
  if digits.isEmpty || (digits.head? == some '0' && body.length != 1) then .error .integerText
  else if numeralLimit < sign + digits.length then .error .integerSize
  else if digits.length != body.length then .error .integerText
  else
    let n : Int := Text.digitsValue digits
    .ok (if negative then -n else n)

def readIntegerText (s : String) : Except IssueKind Int :=
  let written := (dropSignedZeros (Text.trimBoth Text.isWhite s.toList)).bind fun cs =>
    dropLines (dropZeroFraction cs)
  match written with
  | none => .error .integerText
  | some cs => ofDigits cs

/-- Integers given as numbers have to be smaller than this in magnitude. -/
def wordLimit : Nat := Nat.pow 2 63

def readInteger : Value → Except IssueKind Int
  | .int i => .ok i
  | .bool b => .ok b.toInt
  | .float x =>
    if !x.isFinite then .error .notFinite
    else
      match x.toInt? with
      | some i => if i.natAbs < wordLimit then .ok i else .error .integerSize
      | none => .error .fractional
  | .text s => readIntegerText s
  | .choice c => readIntegerText c.label
  | _ => .error .notInteger

/-- A number written with optional sign, point and exponent. -/
def ofDecimalText? (cs : List Char) : Option Binary64 :=
  let signed := Numeral.takeSign cs
  let mark := fun c : Char => c == 'e' || c == 'E'
  let mantissa := signed.2.takeWhile (!mark ·)
  let whole := mantissa.takeWhile (· != '.')
  let fraction := (mantissa.dropWhile (· != '.')).drop 1
  let digits := whole ++ fraction
  let exponent : Option Int :=
    match signed.2.dropWhile (!mark ·) with
    | [] => some 0
    | _ :: rest =>
      let signed := Numeral.takeSign rest
      if signed.2.isEmpty || !signed.2.all Char.isDigit then none
      else
        let n : Int := Text.digitsValue signed.2
        some (if signed.1 then -n else n)
  if digits.isEmpty || !digits.all Char.isDigit then none
  else
    exponent.map fun e =>
      Binary64.ofDecimal signed.1 (Text.digitsValue digits) (e - fraction.length)

/-- A number written in digits, or named. -/
def ofNumeral? (cs : List Char) : Option Binary64 :=
  let signed := Numeral.takeSign cs
  let name := (String.ofList signed.2).toLower
  if name == "inf" || name == "infinity" then some (.infinite signed.1)
  else if name == "nan" then some (.nan 0)
  else ofDecimalText? cs

/-- Outer blanks are passed over, or low lines between other characters, but not both. -/
def readNumberText (s : String) : Except IssueKind Binary64 :=
  let plain := ofNumeral? (Text.trimBoth Text.isWhite s.toList)
  match plain.orElse fun _ => (dropLines s.toList).bind ofNumeral? with
  | some x => .ok x
  | none => .error .numberText

def readNumber : Value → Except IssueKind Binary64
  | .float x => .ok x
  | .int i =>
    match Binary64.ofInt? i with
    | .ok x => .ok x
    | .error _ => .error .notNumber
  | .bool b => .ok (Binary64.ofInt b.toInt)
  | .text s => readNumberText s
  | .choice c => readNumberText c.label
  | _ => .error .notNumber

/-- The words for yes and no, in small or capital letters. -/
def flagWords : List (String × Bool) :=
  [("0", false), ("off", false), ("f", false), ("false", false), ("n", false), ("no", false),
    ("1", true), ("on", true), ("t", true), ("true", true), ("y", true), ("yes", true)]

def readFlagText (s : String) : Except IssueKind Bool :=
  match flagWords.lookup s.toLower with
  | some b => .ok b
  | none => .error .flagText

/-- Zero and one stand for no and yes. -/
def ofCount (i : Int) : Except IssueKind Bool :=
  if i = 0 then .ok false else if i = 1 then .ok true else .error .flagText

def readFlag : Value → Except IssueKind Bool
  | .bool b => .ok b
  | .int i => if -(wordLimit : Int) ≤ i ∧ i < wordLimit then ofCount i else .error .notFlag
  | .float x =>
    match readInteger (.float x) with
    | .ok i => ofCount i
    | .error _ => .error .notFlag
  | .text s => readFlagText s
  | .choice c => readFlagText c.label
  | _ => .error .notFlag

end CourseAudit.Payload
