import CourseAudit.Text.Half
import CourseAudit.Value.Basic

/-!
The reader of the standard interchange format. A number without a point and an exponent is an
integer of any size. A defect is reported by the place where it was noticed, counted in
characters from the start.
-/
namespace CourseAudit.Json

/-- A text that breaks the grammar, with the place of the break counted from the end of the text,
an integer of more digits than are read, or collections nested more deeply than is followed. -/
inductive Defect
  | syntaxAt (left : Nat)
  | longInteger
  | tooDeep
deriving DecidableEq, Repr

def isSpace (c : Char) : Bool := c == ' ' || c == '\n' || c == '\r' || c == '\t'

def skipSpace (cs : List Char) : List Char := cs.dropWhile isSpace

/-- A break noticed before `cs`. -/
def breakAt {α : Type} (cs : List Char) : Except Defect α := .error (.syntaxAt cs.length)

def hexDigit? (c : Char) : Option Nat :=
  if c.isDigit then some (c.toNat - 48)
  else if 'a' ≤ c ∧ c ≤ 'f' then some (c.toNat - 87)
  else if 'A' ≤ c ∧ c ≤ 'F' then some (c.toNat - 55)
  else none

/-- The code unit of four hexadecimal digits. -/
def unit? (cs : List Char) : Option Nat :=
  let digits := cs.take 4
  if digits.length = 4 then
    digits.foldl (fun n c => do
      let value ← n
      let digit ← hexDigit? c
      some (16 * value + digit)) (some 0)
  else none

def simpleEscape? : Char → Option Char
  | '"' => some '"'
  | '\\' => some '\\'
  | '/' => some '/'
  | 'b' => some (Char.ofNat 8)
  | 'f' => some (Char.ofNat 12)
  | 'n' => some '\n'
  | 'r' => some '\r'
  | 't' => some '\t'
  | _ => none

/-- The characters of a string up to its closing quote. `opening` is the text from its opening
quote on. -/
def readString (opening : List Char) (acc : List Char) :
    Nat → List Char → Except Defect (String × List Char)
  | 0, _ => breakAt opening
  | fuel + 1, cs =>
    match cs with
    | [] => breakAt opening
    | '"' :: rest => .ok (String.ofList acc.reverse, rest)
    | '\\' :: 'u' :: rest =>
      if (rest.drop 4).isEmpty then .error (.syntaxAt (rest.length + 1))
      else
        match unit? rest with
        | none => .error (.syntaxAt (rest.length + 1))
        | some high =>
          let rest := rest.drop 4
          match highPair? high rest with
          | some (.error left) => .error (.syntaxAt left)
          | some (.ok (c, rest)) => readString opening (c :: acc) fuel rest
          | none => readString opening (Text.ofUnit high :: acc) fuel rest
    | ['\\'] => breakAt opening
    | '\\' :: c :: rest =>
      match simpleEscape? c with
      | some d => readString opening (d :: acc) fuel rest
      | none => .error (.syntaxAt (rest.length + 2))
    | c :: rest =>
      if c.toNat < 0x20 then .error (.syntaxAt (rest.length + 1))
      else readString opening (c :: acc) fuel rest
where
  /-- The second half of a pair of code units after a first half. -/
  highPair? (high : Nat) (cs : List Char) : Option (Except Nat (Char × List Char)) :=
    if 0xd800 ≤ high ∧ high < 0xdc00 ∧ (cs.drop 6).isEmpty = false then
      match cs with
      | '\\' :: 'u' :: rest =>
        match unit? rest with
        | none => some (.error (rest.length + 1))
        | some low =>
          if 0xdc00 ≤ low ∧ low < 0xe000 then
            let code := 0x10000 + (high - 0xd800) * 0x400 + (low - 0xdc00)
            some (.ok (Text.ofUnit code, rest.drop 4))
          else none
      | _ => none
    else none

/-- Integers of more digits than this are not read. -/
def digitLimit : Nat := 4300

def natOf (digits : List Char) : Nat := digits.foldl (fun n c => 10 * n + (c.toNat - 48)) 0

/-- A fraction counts only with a digit after its point. -/
def takeFraction (cs : List Char) : List Char × List Char :=
  match cs with
  | '.' :: rest =>
    let digits := rest.takeWhile Char.isDigit
    if digits.isEmpty then ([], cs) else (digits, rest.dropWhile Char.isDigit)
  | _ => ([], cs)

/-- An exponent counts only with a digit. -/
def takeExponent (cs : List Char) : Option Int × List Char :=
  match cs with
  | c :: rest =>
    if c = 'e' ∨ c = 'E' then
      let (negative, digits) := match rest with
        | '-' :: more => (true, more)
        | '+' :: more => (false, more)
        | more => (false, more)
      let taken := digits.takeWhile Char.isDigit
      if taken.isEmpty then (none, cs)
      else
        let value : Int := natOf taken
        (some (if negative then -value else value), digits.dropWhile Char.isDigit)
    else (none, cs)
  | [] => (none, cs)

/-- A number; leading zeros end it. -/
def readNumber (cs : List Char) : Except Defect (Value × List Char) :=
  let (negative, rest) := match cs with
    | '-' :: more => (true, more)
    | more => (false, more)
  let whole := match rest with
    | '0' :: _ => ['0']
    | more => more.takeWhile Char.isDigit
  if whole.isEmpty then breakAt cs
  else
    let rest := rest.drop whole.length
    let (fraction, rest) := takeFraction rest
    let (exponent, rest) := takeExponent rest
    if fraction.isEmpty && exponent.isNone then
      if digitLimit < whole.length then .error .longInteger
      else
        let value : Int := natOf whole
        .ok (.int (if negative then -value else value), rest)
    else
      .ok (.float (Binary64.ofDecimal negative (natOf (whole ++ fraction))
        (exponent.getD 0 - fraction.length)), rest)

/-- Names of constants, infinities and the missing number among them. -/
def constants : List (List Char × Value) :=
  [("null".toList, .null), ("true".toList, .bool true), ("false".toList, .bool false),
    ("NaN".toList, .float (.nan 0)), ("Infinity".toList, .float (.infinite false)),
    ("-Infinity".toList, .float (.infinite true))]

mutual

/-- One value; a break is noticed where a value had to begin. Collections may be nested within one
another to `levels`. -/
def readValue (levels : Nat) : Nat → List Char → Except Defect (Value × List Char)
  | 0, cs => breakAt cs
  | fuel + 1, cs =>
    match cs with
    | '"' :: rest =>
      (readString cs [] (fuel + 1) rest).map fun (s, rest) => (.text s, rest)
    | '{' :: rest =>
      if levels = 0 then .error .tooDeep
      else
        match skipSpace rest with
        | '}' :: rest => .ok (.dict [], rest)
        | rest => readEntries (levels - 1) [] fuel rest
    | '[' :: rest =>
      if levels = 0 then .error .tooDeep
      else
        match skipSpace rest with
        | ']' :: rest => .ok (.list [], rest)
        | rest => readItems (levels - 1) [] fuel rest
    | _ =>
      match constants.find? (·.1.isPrefixOf cs) with
      | some (name, value) => .ok (value, cs.drop name.length)
      | none => readNumber cs

/-- Items of a list up to its bracket, the latest first in `acc`. -/
def readItems (levels : Nat) (acc : List Value) :
    Nat → List Char → Except Defect (Value × List Char)
  | 0, cs => breakAt cs
  | fuel + 1, cs => do
    let (value, rest) ← readValue levels fuel cs
    match skipSpace rest with
    | ']' :: rest => .ok (.list (value :: acc).reverse, rest)
    | ',' :: rest => readItems levels (value :: acc) fuel (skipSpace rest)
    | rest => breakAt rest

/-- Entries of a dict up to its brace; a name that comes again takes the later value. -/
def readEntries (levels : Nat) (acc : List (String × Value)) :
    Nat → List Char → Except Defect (Value × List Char)
  | 0, cs => breakAt cs
  | fuel + 1, cs =>
    match cs with
    | '"' :: rest => do
      let (name, rest) ← readString cs [] (fuel + 1) rest
      match skipSpace rest with
      | ':' :: rest =>
        let (value, rest) ← readValue levels fuel (skipSpace rest)
        let acc := Value.put name value acc
        match skipSpace rest with
        | '}' :: rest => .ok (.dict acc, rest)
        | ',' :: rest => readEntries levels acc fuel (skipSpace rest)
        | rest => breakAt rest
      | rest => breakAt rest
    | _ => breakAt cs

end

/-- Why a whole text could not be read: a break at a place, or something that is too long or
nested too deeply. -/
inductive Refusal
  | broken (place : Nat)
  | tooLarge
deriving DecidableEq, Repr

/-- The value that a text writes from end to end. -/
def read (levels : Nat) (cs : List Char) : Except Refusal Value :=
  let outcome : Except Defect Value := do
    let (value, rest) ← readValue levels (cs.length + 1) (skipSpace cs)
    match skipSpace rest with
    | [] => .ok value
    | rest => breakAt rest
  match outcome with
  | .ok value => .ok value
  | .error (.syntaxAt left) => .error (.broken (cs.length - left))
  | .error .longInteger | .error .tooDeep => .error .tooLarge

end CourseAudit.Json
