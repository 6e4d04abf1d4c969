import CourseAudit.Text.Name.Alias
import CourseAudit.Text.Name.Alphabets
import CourseAudit.Text.Name.Ancient
import CourseAudit.Text.Name.Pictures
import CourseAudit.Text.Name.Signs
import CourseAudit.Text.Name.Syllables
import CourseAudit.Text.Name.Symbols
import CourseAudit.Text.Span

/-!
Characters by their names. Most names are listed in runs of consecutive code points, where an entry
says with one digit how many words it shares with the name before it, or with a tilde that it is
that name with small for capital. Ideographs are named by their code points and Korean syllables
by their letters.
-/
namespace CourseAudit.Text.Name

/-- The words of a name from those of the name before it. -/
def nextName (before : List String) (entry : String) : List String :=
  match entry.toList with
  | ['~'] => before.map fun word => if word == "CAPITAL" then "SMALL" else word
  | digit :: rest =>
    let shared := if digit.isDigit then digit.toNat - 48 else digit.toNat - 87
    before.take shared ++ (if rest.isEmpty then [] else (String.ofList rest).splitOn " ")
  | [] => []

/-- The code point of a name in a run. -/
def findInRun (words : List String) (code : Nat) (before : List String) :
    List String → Option Nat
  | [] => none
  | entry :: rest =>
    let name := nextName before entry
    if name == words then some code else findInRun words (code + 1) name rest

/-- All runs of names. -/
def runs : List (Nat × List String) :=
  alphabets ++ symbols ++ syllables ++ ancient ++ signs ++ pictures

/-- The code point of a listed name. -/
def findListed (name : String) : Option Nat :=
  let words := name.splitOn " "
  let entries := fun lines : List String => lines.flatMap (·.splitOn "|")
  (runs.findSome? fun run => findInRun words run.1 [] (entries run.2)).orElse fun _ =>
    (aliases.find? fun entry => (entry.2.splitOn "|").contains name).map (·.1)

/-- The value of a character as a capital hexadecimal digit. -/
def capitalHexValue? (c : Char) : Option Nat :=
  if c.isDigit then some (c.toNat - 48)
  else if 'A' ≤ c ∧ c ≤ 'F' then some (c.toNat - 55)
  else none

/-- The code point that four or five hexadecimal digits write. -/
def writtenCode? (digits : List Char) : Option Nat :=
  if digits.length = 4 ∨ digits.length = 5 then
    (digits.mapM capitalHexValue?).map (·.foldl (fun n d => 16 * n + d) 0)
  else none

def unifiedSpans : List (Nat × Nat) :=
  [(0x3400, 0x4dbf), (0x4e00, 0x9fff), (0x20000, 0x2a6df), (0x2a700, 0x2b738), (0x2b740, 0x2b81d),
    (0x2b820, 0x2cea1), (0x2ceb0, 0x2ebe0), (0x30000, 0x3134a)]

/-- Other characters that are named by their code points, by what stands before it. -/
def numbered : List (String × List (Nat × Nat)) :=
  [("CJK COMPATIBILITY IDEOGRAPH-", [(0xf900, 0xfa6d), (0xfa70, 0xfad9), (0x2f800, 0x2fa1d)]),
    ("KHITAN SMALL SCRIPT CHARACTER-", [(0x18b00, 0x18cd5)]),
    ("NUSHU CHARACTER-", [(0x1b170, 0x1b2fb)])]

/-- What follows a beginning. -/
def after? (beginning : String) (name : List Char) : Option (List Char) :=
  if beginning.toList.isPrefixOf name then some (name.drop beginning.length) else none

/-- The code point of a numbered name, which has no leading zeros. -/
def findNumbered (name : List Char) : Option Nat :=
  numbered.findSome? fun entry => do
    let digits ← after? entry.1 name
    let code ← writtenCode? digits
    if digits.length = (Nat.toDigits 16 code).length ∧ inSpans entry.2 code = true then some code
    else none

def leads : List String :=
  ["G", "GG", "N", "D", "DD", "R", "M", "B", "BB", "S", "SS", "", "J", "JJ", "C", "K", "T", "P",
    "H"]

def vowels : List String :=
  ["A", "AE", "YA", "YAE", "EO", "E", "YEO", "YE", "O", "WA", "WAE", "OE", "YO", "U", "WEO", "WE",
    "WI", "YU", "EU", "YI", "I"]

def tails : List String :=
  ["", "G", "GG", "GS", "N", "NJ", "NH", "D", "L", "LG", "LM", "LB", "LS", "LT", "LP", "LH", "M",
    "B", "BS", "S", "SS", "NG", "J", "C", "K", "T", "P", "H"]

/-- The longest of some letters at the head of a text: its index and what follows it. -/
def longest? (letters : List String) (cs : List Char) : Option (Nat × List Char) :=
  let found := letters.zipIdx.filter fun letter => letter.1.toList.isPrefixOf cs
  let best := found.foldl (fun best letter =>
    match best with
    | some (chosen : String × Nat) =>
      if chosen.1.length < letter.1.length then some letter else best
    | none => some letter) none
  best.map fun letter => (letter.2, cs.drop letter.1.length)

/-- The code point of a syllable written by its letters. -/
def syllable? (cs : List Char) : Option Nat := do
  let (lead, rest) ← longest? leads cs
  let (vowel, rest) ← longest? vowels rest
  let (tail, rest) ← longest? tails rest
  if rest.isEmpty then some (0xac00 + (lead * vowels.length + vowel) * tails.length + tail)
  else none

/-- The code point with a name. Letter case is ignored but in the names of unified ideographs and
of syllables. -/
def find? (name : List Char) : Option Nat :=
  match after? "HANGUL SYLLABLE " name, after? "CJK UNIFIED IDEOGRAPH-" name with
  | some letters, _ => syllable? letters
  | none, some digits => (writtenCode? digits).filter (inSpans unifiedSpans)
  | none, none =>
    let name := name.map Char.toUpper
    (findNumbered name).orElse fun _ => findListed (String.ofList name)

end CourseAudit.Text.Name
