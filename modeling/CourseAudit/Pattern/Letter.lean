import CourseAudit.Pattern.Basic
import CourseAudit.Text.Alphanumeric
import CourseAudit.Text.Blank
import CourseAudit.Text.Case
import CourseAudit.Text.Digit

/-!
Tests of single characters and of places between them. Without regard to case a character is
compared by its small letter; which tests depend on case at all is told by `Leaf.isPlain`.
-/
namespace CourseAudit.Pattern

/-- Whether a character is of a kind, among all scripts or within the common one. -/
def Kind.holds (k : Kind) (ascii : Bool) (c : Char) : Bool :=
  match k with
  | .digit => if ascii then c.isDigit else Text.isDecimalDigit c
  | .word => if ascii then c.isAlphanum || c == '_' else Text.isWordChar c
  | .blank =>
    if ascii then c == ' ' || (0x09 ≤ c.toNat && c.toNat ≤ 0x0d) else Text.isBlank c

def Mode.small (mode : Mode) (c : Char) : Char :=
  if mode.ascii then c.toLower else Text.smallLetter c

/-- Other small letters that count as the same when case is ignored. -/
def Mode.mates (mode : Mode) (c : Char) : List Char :=
  if mode.ascii then [] else Text.capitalMates c

/-- Other characters with this small letter. -/
def Mode.capitals (mode : Mode) (c : Char) : List Char :=
  if mode.ascii then (if c.isLower then [c.toUpper] else []) else Text.capitalsOf c

/-- A code point as a character, if it is one. -/
def charOf? (code : Nat) : Option Char :=
  if code.isValidChar then some (Char.ofNat code) else none

/-- Whether small letter `c` stands for the character `code` when case is ignored. -/
def Mode.sameLetter (mode : Mode) (code : Nat) (c : Char) : Bool :=
  match charOf? code with
  | some d => c == mode.small d || (mode.mates (mode.small d)).contains c
  | none => false

/-- Characters past the basic plane are listed in sets by their own code points. -/
def planeEnd : Nat := 0x10000

/-- Whether small letter `c` has a form in a span of code points. -/
def Mode.inSpan (mode : Mode) (low high : Nat) (c : Char) : Bool :=
  ((c :: mode.mates c).any fun letter => (letter :: mode.capitals letter).any fun d =>
    mode.small d == letter && low ≤ d.toNat && d.toNat ≤ high && d.toNat < planeEnd) ||
  (planeEnd ≤ high && (c :: mode.capitals c).any fun d => low ≤ d.toNat && d.toNat ≤ high)

/-- Whether a set lists a character, which is a small letter when case is ignored. -/
def Member.holds (mode : Mode) (c : Char) : Member → Bool
  | .one code =>
    if mode.ignoreCase && code < planeEnd then mode.sameLetter code c else c.toNat == code
  | .span low high =>
    if mode.ignoreCase then mode.inSpan low high c else low ≤ c.toNat && c.toNat ≤ high
  | .kind k negated => k.holds mode.ascii c != negated

def Leaf.holds (mode : Mode) (c : Char) : Leaf → Bool
  | .one code => if mode.ignoreCase then mode.sameLetter code (mode.small c) else c.toNat == code
  | .other code =>
    !(if mode.ignoreCase then mode.sameLetter code (mode.small c) else c.toNat == code)
  | .any => mode.dotAll || c != '\n'
  | .set negated members =>
    members.any (Member.holds mode (if mode.ignoreCase then mode.small c else c)) != negated

/-- Whether a character has another form in the other case. -/
def Mode.hasCase (mode : Mode) (code : Nat) : Bool :=
  match charOf? code with
  | none => false
  | some c => if mode.ascii then c.isAlpha else Text.hasCase c

/-- Whether a span of code points holds a character with another form in the other case. -/
def Mode.spanHasCase (mode : Mode) (low high : Nat) : Bool :=
  if mode.ascii then (low ≤ 0x5a && 0x41 ≤ high) || (low ≤ 0x7a && 0x61 ≤ high)
  else Text.spanHasCase low high

def Member.hasCase (mode : Mode) : Member → Bool
  | .one code => planeEnd ≤ code || mode.hasCase code
  | .span low high => planeEnd ≤ high || mode.spanHasCase low high
  | .kind .. => false

/-- Whether case makes no difference to a test. -/
def Leaf.isPlain (mode : Mode) : Leaf → Bool
  | .one code | .other code => !(mode.ignoreCase && mode.hasCase code)
  | .any => true
  | .set _ members => !(mode.ignoreCase && members.any (Member.hasCase mode))

/-- Whether a test lists more than one small letter. -/
def Leaf.isList (mode : Mode) : Leaf → Bool
  | .one code | .other code =>
    mode.ignoreCase && mode.hasCase code &&
      ((charOf? code).map fun c => !(mode.mates (mode.small c)).isEmpty).getD false
  | .any => false
  | .set negated members => !(Leaf.set negated members).isPlain mode

def Anchor.holds (text : Array Char) (mode : Mode) (pos : Nat) : Anchor → Bool
  | .textStart => pos == 0
  | .textEnd => pos == text.size
  | .lineStart => pos == 0 || (mode.lines && pos != 0 && text[pos - 1]? == some '\n')
  | .lineEnd =>
    pos == text.size || (text[pos]? == some '\n' && (mode.lines || pos + 1 == text.size))
  | .wordEdge => before != after
  | .wordInside => before == after && text.size != 0
where
  before : Bool := pos != 0 && ((text[pos - 1]?).map (Kind.word.holds mode.ascii)).getD false
  after : Bool := ((text[pos]?).map (Kind.word.holds mode.ascii)).getD false

/-- Whether two spans of the text hold the same letters. -/
def sameSpan (text : Array Char) (mode : Mode) (left right size : Nat) : Bool :=
  (List.range size).all fun i =>
    match text[left + i]?, text[right + i]? with
    | some c, some d => if mode.ignoreCase then mode.small c == mode.small d else c == d
    | _, _ => false

end CourseAudit.Pattern
