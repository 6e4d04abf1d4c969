/-!
Blank characters. `isBlank` is the wide set that trimming and blankness use; `isWhite` leaves out
the four information separators and serves the reading of numbers in requests.
-/
namespace CourseAudit.Text

/-- White space of the character standard. -/
def isWhite (c : Char) : Bool :=
  let n := c.toNat
  (0x09 ≤ n && n ≤ 0x0d) || n == 0x20 || n == 0x85 || n == 0xa0 || n == 0x1680 ||
    (0x2000 ≤ n && n ≤ 0x200a) || n == 0x2028 || n == 0x2029 || n == 0x202f || n == 0x205f ||
    n == 0x3000

/-- White space and the four information separators. -/
def isBlank (c : Char) : Bool := isWhite c || (0x1c ≤ c.toNat && c.toNat ≤ 0x1f)

/-- A text without the characters of a class at its two ends. -/
def trimBoth (p : Char → Bool) (cs : List Char) : List Char :=
  ((cs.dropWhile p).reverse.dropWhile p).reverse

/-- A text without blanks at its two ends. -/
def trim (s : String) : String := String.ofList (trimBoth isBlank s.toList)

/-- No character, or blanks only. -/
def isBlankText (s : String) : Bool := s.toList.all isBlank

end CourseAudit.Text
