import CourseAudit.Text.Half
import CourseAudit.Text.Printable

/-!
Quoted texts, as they stand inside the text of a list. Apostrophes enclose a text unless it holds
one and no double quote; what cannot be printed is written by its code point.
-/
namespace CourseAudit.Text

/-- `width` hexadecimal digits of a code point. -/
def hexDigits (width code : Nat) : List Char :=
  let digits := Nat.toDigits 16 code
  List.replicate (width - digits.length) '0' ++ digits

/-- One character between quotes. -/
def escaped (quote c : Char) : List Char :=
  if c = quote ∨ c = '\\' then ['\\', c]
  else if c = '\n' then ['\\', 'n']
  else if c = '\r' then ['\\', 'r']
  else if c = '\t' then ['\\', 't']
  else if isPrintable c then [c]
  else if c.toNat < 0x100 then '\\' :: 'x' :: hexDigits 2 c.toNat
  else if c.toNat < 0x10000 then '\\' :: 'u' :: hexDigits 4 c.toNat
  else
    match half? c with
    | some code => '\\' :: 'u' :: hexDigits 4 code
    | none => '\\' :: 'U' :: hexDigits 8 c.toNat

/-- A text between quotes. -/
def quoted (s : String) : String :=
  let cs := s.toList
  let quote := if cs.contains '\'' && !cs.contains '"' then '"' else '\''
  String.ofList (quote :: (cs.flatMap (escaped quote) ++ [quote]))

end CourseAudit.Text
