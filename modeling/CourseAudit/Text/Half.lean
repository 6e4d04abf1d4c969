/-!
Halves of pairs. Code units from D800 to DFFF write characters in pairs, and one that stands alone
is no character. A text keeps it as one of the last private characters, so that it is neither lost
nor taken for another.
-/
namespace CourseAudit.Text

/-- The character that stands for the first half. -/
def halfBase : Nat := 0x10f800

/-- A code unit, or a code point, as a character of a text. -/
def ofUnit (code : Nat) : Char :=
  if 0xd800 ≤ code ∧ code < 0xe000 then Char.ofNat (halfBase + (code - 0xd800)) else Char.ofNat code

/-- The code unit of a half that stands alone. -/
def half? (c : Char) : Option Nat :=
  if halfBase ≤ c.toNat then some (c.toNat - halfBase + 0xd800) else none

/-- Whether a text holds a half that stands alone. Such a text cannot be written. -/
def hasHalf (s : String) : Bool := s.toList.any fun c => (half? c).isSome

end CourseAudit.Text
