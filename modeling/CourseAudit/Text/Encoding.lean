import CourseAudit.Text.Half

/-!
Encodings of texts in units of one, two or four bytes. A text of the interchange format begins with
two plain characters, so that its encoding shows in which of its first bytes are zero.
-/
namespace CourseAudit.Text

/-- How many bytes a unit has, and whether its high bytes come first. -/
inductive Encoding
  | one
  | two (highFirst : Bool)
  | four (highFirst : Bool)
deriving DecidableEq, Repr

namespace Encoding

/-- The encoding that the first bytes of a text show. -/
def ofBytes : List Nat → Encoding
  | [0, _] => .two true
  | [_, 0] => .two false
  | 0 :: 0 :: _ :: _ :: _ => .four true
  | 0 :: _ :: _ :: _ :: _ => .two true
  | _ :: 0 :: 0 :: 0 :: _ => .four false
  | _ :: 0 :: _ :: _ :: _ => .two false
  | _ => .one

/-- Units of two bytes; nothing when a byte is left over. -/
def units? (highFirst : Bool) : List Nat → Option (List Nat)
  | [] => some []
  | a :: b :: rest =>
    (units? highFirst rest).map ((if highFirst then a * 256 + b else b * 256 + a) :: ·)
  | [_] => none

/-- Characters of units of two bytes, where a pair of halves is one character. -/
def joinHalves : List Nat → List Char
  | high :: low :: rest =>
    if 0xd800 ≤ high ∧ high < 0xdc00 ∧ 0xdc00 ≤ low ∧ low < 0xe000 then
      Char.ofNat (0x10000 + (high - 0xd800) * 0x400 + (low - 0xdc00)) :: joinHalves rest
    else ofUnit high :: joinHalves (low :: rest)
  | [unit] => [ofUnit unit]
  | [] => []

/-- Characters of units of four bytes; nothing when bytes are left over or a unit is too large. -/
def wide? (highFirst : Bool) : List Nat → Option (List Char)
  | [] => some []
  | a :: b :: c :: d :: rest =>
    let high := if highFirst then a * 256 + b else d * 256 + c
    let low := if highFirst then c * 256 + d else b * 256 + a
    let code := high * 65536 + low
    if code < 0x110000 then (wide? highFirst rest).map (ofUnit code :: ·) else none
  | _ => none

/-- The characters that bytes encode in units of more than one byte. -/
def decode? (bytes : List Nat) : Encoding → Option (List Char)
  | .one => none
  | .two highFirst => (units? highFirst bytes).map joinHalves
  | .four highFirst => wide? highFirst bytes

end Encoding

/-- The characters of a text of the interchange format, of which the plain encoding is known;
nothing when its bytes break the encoding that they show. The mark of byte order at its head is
passed over. -/
def decoded? (s : String) : Option (List Char) :=
  let bytes := s.toUTF8.toList.map UInt8.toNat
  match Encoding.ofBytes bytes with
  | .one =>
    match s.toList with
    | c :: rest => some (if c = Char.ofNat 0xfeff then rest else c :: rest)
    | [] => some []
  | encoding => encoding.decode? bytes

end CourseAudit.Text
