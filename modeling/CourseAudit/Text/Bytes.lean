/-!
Texts written as bytes: the standard encoding of characters in one to four bytes, and bytes written
in a path by a percent sign and two hexadecimal digits.
-/
namespace CourseAudit.Text

/-- What a first byte begins: its bits, and the ranges that the bytes after it have to lie in. -/
def opening? (b : Nat) : Option (Nat × List (Nat × Nat)) :=
  let any := (0x80, 0xbf)
  if 0xc2 ≤ b ∧ b ≤ 0xdf then some (b - 0xc0, [any])
  else if b = 0xe0 then some (0, [(0xa0, 0xbf), any])
  else if b = 0xed then some (0xd, [(0x80, 0x9f), any])
  else if 0xe1 ≤ b ∧ b ≤ 0xef then some (b - 0xe0, [any, any])
  else if b = 0xf0 then some (0, [(0x90, 0xbf), any, any])
  else if b = 0xf4 then some (4, [(0x80, 0x8f), any, any])
  else if 0xf1 ≤ b ∧ b ≤ 0xf3 then some (b - 0xf0, [any, any, any])
  else none

/-- The mark for bytes that encode nothing. -/
def replacement : Char := Char.ofNat 0xfffd

/-- The characters that bytes encode. `pending` holds the bits of a character that has begun and
the ranges of the bytes that it still needs; a run of bytes that breaks off becomes one mark. -/
def decodeFrom (pending : Option (Nat × List (Nat × Nat))) : List Nat → List Char
  | [] => if pending.isSome then [replacement] else []
  | b :: rest =>
    let begun : List Char :=
      if b < 0x80 then Char.ofNat b :: decodeFrom none rest
      else
        match opening? b with
        | some opened => decodeFrom (some opened) rest
        | none => replacement :: decodeFrom none rest
    match pending with
    | some (bits, (low, high) :: more) =>
      if low ≤ b ∧ b ≤ high then
        let bits := bits * 64 + (b - 0x80)
        if more.isEmpty then Char.ofNat bits :: decodeFrom none rest
        else decodeFrom (some (bits, more)) rest
      else replacement :: begun
    | _ => begun

def hexValue? (c : Char) : Option Nat :=
  if c.isDigit then some (c.toNat - 48)
  else if 'a' ≤ c ∧ c ≤ 'f' then some (c.toNat - 87)
  else if 'A' ≤ c ∧ c ≤ 'F' then some (c.toNat - 55)
  else none

/-- The bytes of a character. -/
def bytesOf (c : Char) : List Nat := (String.singleton c).toUTF8.toList.map UInt8.toNat

/-- The bytes of a path: written ones by their values, other characters by their encoding. -/
def pathBytes : List Char → List Nat
  | '%' :: a :: b :: rest =>
    match hexValue? a, hexValue? b with
    | some high, some low => (16 * high + low) :: pathBytes rest
    | _, _ => 0x25 :: pathBytes (a :: b :: rest)
  | c :: rest => bytesOf c ++ pathBytes rest
  | [] => []

/-- The text that a path writes. -/
def unescapePath (s : String) : String := String.ofList (decodeFrom none (pathBytes s.toList))

end CourseAudit.Text
