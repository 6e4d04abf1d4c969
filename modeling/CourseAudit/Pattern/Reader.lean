import CourseAudit.Pattern.Basic
import CourseAudit.Text.Alphanumeric
import CourseAudit.Text.Blank
import CourseAudit.Text.Digit
import CourseAudit.Text.Name.Basic

/-!
The grammar of text patterns. `read` turns a text into a tree or says why it cannot. Options set
for the whole pattern stand before everything else, so that each leaf knows its mode when it is
read; look-backs of unknown width are refused at the end.
-/
namespace CourseAudit.Pattern

/-- Why a text is no pattern: it breaks the grammar, a repetition count is out of range, its
options exclude one another, its groups are nested too deeply, or it looks back too far. -/
inductive Defect
  | malformed | countOverflow | conflict | tooDeep | tooFar
deriving DecidableEq, Repr

/-- A character, alone or after a backslash. -/
inductive Token
  | plain (c : Char)
  | escaped (c : Char)
deriving DecidableEq, Repr

/-- A backslash at the end escapes nothing. -/
def tokens? : List Char → Option (List Token)
  | [] => some []
  | ['\\'] => none
  | '\\' :: c :: rest => (tokens? rest).map (.escaped c :: ·)
  | c :: rest => (tokens? rest).map (.plain c :: ·)

/-- The state of a reading: what is left, the widths of groups opened so far (none while a group
is open), their names, the first group a look back may not refer to, the groups that conditions
ask for, and how many levels the place at hand lies deep. -/
structure Scan where
  rest : List Token
  widths : Array (Option Width)
  names : List (List Char × Nat)
  fence : Option Nat
  wanted : List Nat
  mode : Mode
  level : Nat

abbrev Reading := StateT Scan (Except Defect)

def malformed {α : Type} : Reading α := throw .malformed

/-- The next token, without taking it. -/
def peek : Reading (Option Token) := return (← get).rest.head?

def next : Reading (Option Token) := do
  let scan ← get
  set { scan with rest := scan.rest.drop 1 }
  return scan.rest.head?

/-- Takes a character if it is next. -/
def accept (c : Char) : Reading Bool := do
  if (← peek) == some (.plain c) then
    let _ ← next
    return true
  else return false

def expect (c : Char) : Reading Unit := do
  if !(← accept c) then malformed

/-- The run of plain characters of a class at the head of a row of tokens, at most `limit`. -/
def leading (p : Char → Bool) : Nat → List Token → List Char × List Token
  | 0, ts => ([], ts)
  | limit + 1, .plain c :: ts =>
    if p c then
      let found := leading p limit ts
      (c :: found.1, found.2)
    else ([], .plain c :: ts)
  | _ + 1, ts => ([], ts)

def takeWhile (p : Char → Bool) (limit : Nat) : Reading (List Char) := do
  let scan ← get
  let found := leading p limit scan.rest
  set { scan with rest := found.2 }
  return found.1

/-- Characters up to a closing mark, which is taken too; an escape in a name makes it no name. -/
def upTo (stop : Char) : List Token → Option (List Char × List Token)
  | [] => none
  | .plain c :: ts =>
    if c = stop then some ([], ts) else (upTo stop ts).map fun r => (c :: r.1, r.2)
  | .escaped c :: ts => (upTo stop ts).map fun r => ('\\' :: c :: r.1, r.2)

def takeName (stop : Char) : Reading (List Char) := do
  let scan ← get
  match upTo stop scan.rest with
  | some (c :: cs, rest) =>
    set { scan with rest }
    return c :: cs
  | _ => malformed

/-- A name starts with a letter or a low line and goes on with these and digits. -/
def isName : List Char → Bool
  | [] => false
  | c :: cs => Text.isWordChar c && !Text.isDecimalDigit c && cs.all Text.isWordChar

def isOctal (c : Char) : Bool := decide ('0' ≤ c) && decide (c ≤ '7')

def isHex (c : Char) : Bool :=
  c.isDigit || (decide ('a' ≤ c.toLower) && decide (c.toLower ≤ 'f'))

def hexValue (digits : List Char) : Nat :=
  digits.foldl (fun n c =>
    16 * n + if c.isDigit then c.toNat - 48 else c.toLower.toNat - 87) 0

def octalValue (digits : List Char) : Nat := digits.foldl (fun n c => 8 * n + (c.toNat - 48)) 0

/-- Control characters with an escape of one letter. -/
def controlCode? : Char → Option Nat
  | 'a' => some 7
  | 'f' => some 12
  | 'n' => some 10
  | 'r' => some 13
  | 't' => some 9
  | 'v' => some 11
  | '\\' => some 92
  | _ => none

def kindMember? : Char → Option Member
  | 'd' => some (.kind .digit false)
  | 'D' => some (.kind .digit true)
  | 's' => some (.kind .blank false)
  | 'S' => some (.kind .blank true)
  | 'w' => some (.kind .word false)
  | 'W' => some (.kind .word true)
  | _ => none

def anchor? : Char → Option Anchor
  | 'A' => some .textStart
  | 'Z' => some .textEnd
  | 'b' => some .wordEdge
  | 'B' => some .wordInside
  | _ => none

/-- Exactly `count` hexadecimal digits of a code point. -/
def takeHex (count : Nat) : Reading Nat := do
  let digits ← takeWhile isHex count
  if digits.length = count ∧ hexValue digits ≤ 0x10ffff then return hexValue digits else malformed

/-- A character by its name in braces. -/
def takeNamed : Reading Nat := do
  expect '\x7b'
  match Text.Name.find? (← takeName '\x7d') with
  | some code => return code
  | none => malformed

/-- Escapes that mean one character both within sets and outside. -/
def plainEscape (c : Char) : Reading Nat := do
  if let some code := controlCode? c then return code
  else if c == 'x' then takeHex 2
  else if c == 'u' then takeHex 4
  else if c == 'U' then takeHex 8
  else if c == 'N' then takeNamed
  else if c.isAlphanum then malformed
  else return c.toNat

/-- An escape within a set. -/
def setEscape (c : Char) : Reading Member := do
  if let some member := kindMember? c then return member
  else if c == 'b' then return .one 8
  else if isOctal c then
    let digits ← takeWhile isOctal 2
    let code := octalValue (c :: digits)
    if 0o377 < code then malformed else return .one code
  else return .one (← plainEscape c)

/-- Whether a group has been closed. -/
def Scan.closed? (scan : Scan) (index : Nat) : Option Width :=
  if index = 0 then none else (scan.widths[index - 1]?).join

/-- Within a look back only groups closed before it may be referred to. -/
def checkFence (index : Nat) : Reading Unit := do
  let scan ← get
  match scan.fence with
  | none => return
  | some fence => if (scan.closed? index).isNone || fence ≤ index then malformed

def reference (mode : Mode) (index : Nat) : Reading Node := do
  match (← get).closed? index with
  | none => malformed
  | some width =>
    checkFence index
    return .again mode index width

/-- A digit after a backslash: three octal digits are a character, fewer a group. -/
def digitEscape (mode : Mode) (c : Char) : Reading Node := do
  if c == '0' then
    let digits ← takeWhile isOctal 2
    return .leaf mode (.one (octalValue (c :: digits)))
  else
    let second ← takeWhile Char.isDigit 1
    let third ←
      if (c :: second).all isOctal && !second.isEmpty then takeWhile isOctal 1 else pure []
    if third.isEmpty then reference mode (Text.digitsValue (c :: second))
    else
      let code := octalValue (c :: second ++ third)
      if 0o377 < code then malformed else return .leaf mode (.one code)

/-- What was read last, as far as a repetition sign cares. -/
inductive Last
  | anchor | loop | other
deriving DecidableEq

/-- An escape outside sets. -/
def escape (mode : Mode) (c : Char) : Reading (Node × Last) := do
  if let some place := anchor? c then return (.anchor mode place, .anchor)
  else if let some member := kindMember? c then return (.leaf mode (.set false [member]), .other)
  else if c.isDigit then return (← digitEscape mode c, .other)
  else return (.leaf mode (.one (← plainEscape c)), .other)

/-- One end of a possible span of a set. -/
def setItem : Token → Reading Member
  | .escaped c => setEscape c
  | .plain c => return .one c.toNat

/-- The members of a set up to its bracket; a bracket that comes first is a member. -/
def setMembers (members : List Member) : Nat → Reading (List Member)
  | 0 => malformed
  | fuel + 1 => do
    match ← next with
    | none => malformed
    | some token =>
      if token == .plain ']' && !members.isEmpty then return members
      else
        let low ← setItem token
        if ← accept '-' then
          match ← next with
          | none => malformed
          | some (.plain ']') => return members ++ [low, .one '-'.toNat]
          | some token =>
            match low, ← setItem token with
            | .one a, .one b =>
              if b < a then malformed else setMembers (members ++ [.span a b]) fuel
            | _, _ => malformed
        else setMembers (members ++ [low]) fuel

def readSet (mode : Mode) : Reading Node := do
  let negated ← accept '^'
  let members ← setMembers [] ((← get).rest.length + 1)
  match members.eraseDups with
  | [.one code] => return .leaf mode (if negated then .other code else .one code)
  | members => return .leaf mode (.set negated members)

/-- Repetition counts stay below this bound. -/
def countLimit : Nat := Nat.pow 2 32 - 1

/-- A count in decimal digits; texts of more than 4300 digits are not taken for numbers. -/
def countOf (digits : List Char) : Reading Nat := do
  if 4300 < digits.length then throw .conflict
  let count := Text.digitsValue digits
  if countLimit ≤ count then throw .countOverflow
  return count

/-- Least and greatest number of rounds after a repetition sign; braces that give no counts stand
for themselves. -/
def readCounts : Char → Reading (Option (Nat × Option Nat))
  | '?' => return some (0, some 1)
  | '*' => return some (0, none)
  | '+' => return some (1, none)
  | _ => do
    let scan ← get
    if scan.rest.head? == some (.plain '}') then return none
    let low ← takeWhile Char.isDigit scan.rest.length
    let ranged ← accept ','
    let high ← if ranged then takeWhile Char.isDigit scan.rest.length else pure low
    if !(← accept '}') then
      set scan
      return none
    let least ← if low.isEmpty then pure 0 else countOf low
    let most ← if high.isEmpty then pure none else (some <$> countOf high)
    if most.any (· < least) then malformed
    return some (least, most)

/-- Options that a group adds and takes away. -/
structure Options where
  added : List Char
  removed : List Char
deriving Repr

def isOption (c : Char) : Bool := "iLmsxatu".toList.contains c

def isScriptOption (c : Char) : Bool := "aLu".toList.contains c

/-- Letters of options to be added; the mark that ends them is given back. -/
def addedOptions (added : List Char) (c : Char) : Nat → Reading (List Char × Char)
  | 0 => malformed
  | fuel + 1 => do
    if !isOption c || c == 'L' then malformed
    let added := added ++ [c]
    if isScriptOption c && added.any (fun d => isScriptOption d && d != c) then malformed
    match ← next with
    | some (.plain d) =>
      if d == ')' || d == '-' || d == ':' then return (added, d) else addedOptions added d fuel
    | _ => malformed

/-- Letters of options to be removed, up to a colon. -/
def removedOptions (removed : List Char) : Nat → Reading (List Char)
  | 0 => malformed
  | fuel + 1 => do
    match ← next with
    | some (.plain d) =>
      if d == ':' && !removed.isEmpty then return removed
      else if !isOption d || isScriptOption d then malformed
      else removedOptions (removed ++ [d]) fuel
    | _ => malformed

/-- Options of a group that starts with `c`: nothing when they are set for the whole pattern. -/
def readOptions (c : Char) : Reading (Option Options) := do
  let size := (← get).rest.length + 1
  let (added, stop) ← if c == '-' then pure ([], '-') else addedOptions [] c size
  if stop == ')' then
    modify fun scan => { scan with mode := add scan.mode added }
    return none
  else
    if added.contains 't' then malformed
    let removed ← if stop == '-' then removedOptions [] size else pure []
    if removed.contains 't' || added.any removed.contains then malformed
    return some ⟨added, removed⟩
where
  add (mode : Mode) (added : List Char) : Mode :=
    { ignoreCase := mode.ignoreCase || added.contains 'i'
      ascii := mode.ascii || added.contains 'a'
      unicode := mode.unicode || added.contains 'u'
      lines := mode.lines || added.contains 'm'
      dotAll := mode.dotAll || added.contains 's'
      verbose := mode.verbose || added.contains 'x'
      template := mode.template || added.contains 't' }

/-- The mode within a group; naming a script replaces the one in force. -/
def Mode.within (mode : Mode) (o : Options) : Mode :=
  { mode with
    ignoreCase := (mode.ignoreCase || o.added.contains 'i') && !o.removed.contains 'i'
    ascii := if o.added.any isScriptOption then o.added.contains 'a' else mode.ascii
    lines := (mode.lines || o.added.contains 'm') && !o.removed.contains 'm'
    dotAll := (mode.dotAll || o.added.contains 's') && !o.removed.contains 's'
    verbose := (mode.verbose || o.added.contains 'x') && !o.removed.contains 'x' }

/-- Opens a group and returns its number. -/
def openGroup (name : Option (List Char)) : Reading Nat := do
  let scan ← get
  let index := scan.widths.size + 1
  if let some n := name then
    if scan.names.any (·.1 == n) then malformed
  set { scan with
    widths := scan.widths.push none
    names := match name with
      | some n => (n, index) :: scan.names
      | none => scan.names }
  return index

def closeGroup (index : Nat) (width : Width) : Reading Unit :=
  modify fun scan => { scan with widths := scan.widths.setIfInBounds (index - 1) (some width) }

def groupNamed (name : List Char) : Reading Nat := do
  match (← get).names.find? (·.1 == name) with
  | some found => return found.2
  | none => malformed

/-- A group number as the condition of a choice: digits, with blanks around them, a plus sign and
single low lines between digits allowed. -/
def groupNumber (name : List Char) : Reading Nat := do
  let trimmed := Text.trimBoth Text.isBlank name
  let digits := if trimmed.head? == some '+' then trimmed.drop 1 else trimmed
  let parts := digits.splitOnP (· == '_')
  if parts.all (fun part => !part.isEmpty && part.all Text.isDecimalDigit) then
    let index := Text.digitsValue parts.flatten
    if index = 0 ∨ Nat.pow 2 30 ≤ index then malformed
    modify fun scan => { scan with wanted := index :: scan.wanted }
    return index
  else malformed

/-- Skips a comment in parentheses. -/
def skipComment : Reading Unit := do
  let scan ← get
  match scan.rest.dropWhile (· != .plain ')') with
  | [] => malformed
  | _ :: rest => set { scan with rest }

/-- The sign after a repetition sign that says how it prefers its rounds. -/
def readGreed : Reading Greed := do
  if ← accept '?' then return .lazy
  if ← accept '+' then return .possessive
  return .greedy

/-- A repetition of what was read last. -/
def repeated (mode : Mode) (counts : Nat × Option Nat) (items : List (Node × Last)) :
    Reading (List (Node × Last)) := do
  match items with
  | [] | (_, .anchor) :: _ | (_, .loop) :: _ => malformed
  | (node, .other) :: before =>
    let greed ← readGreed
    if mode.template then malformed
    return (.loop greed counts.1 counts.2 node, .loop) :: before

/-- Groups may be nested to this level; a choice by a group counts one level, other groups two. -/
def levelLimit : Nat := 982

/-- Goes down some levels. -/
def descend (levels : Nat) : Reading Unit := do
  modify fun scan => { scan with level := scan.level + levels }
  if levelLimit < (← get).level then throw .tooDeep

/-- Comes up again at the end of a group. -/
def ascend (levels : Nat) : Reading Unit := do
  modify fun scan => { scan with level := scan.level - levels }
  expect ')'

/-- Whether two parts are the same test or reference. -/
def sameStart : Node → Node → Bool
  | .leaf m s, .leaf n t => m == n && s == t
  | .anchor _ p, .anchor _ q => p == q
  | .again _ i _, .again _ j _ => i == j
  | _, _ => false

/-- Takes the parts with which all alternatives begin out of them. -/
def commonStart : Nat → List (List Node) → List Node × List (List Node)
  | fuel + 1, (part :: first) :: rest =>
    if rest.all fun item => (item.head?.map (sameStart part)).getD false then
      let found := commonStart fuel (first :: rest.map (·.drop 1))
      (part :: found.1, found.2)
    else ([], (part :: first) :: rest)
  | _, items => ([], items)

/-- What the set of an alternative lists that is a test of a character and nothing more. -/
def listed? : List Node → Option (List Member)
  | [.leaf _ (.one code)] => some [.one code]
  | [.leaf _ (.set false members)] => some members
  | _ => none

/-- Alternatives as a chain. -/
def chain : List (List Node) → Node
  | [] => .empty
  | [item] => .alternative (Node.ofList item)
  | item :: rest => .either (.alternative (Node.ofList item)) (chain rest)

/-- A choice of alternatives. What all begin with stands before it, and single characters make up
one set. -/
def choiceOf (mode : Mode) (alternatives : List Node) : Node :=
  match alternatives with
  | [node] => node
  | alternatives =>
    let items := alternatives.map Node.parts
    let found := commonStart (items.headD []).length items
    let body := match found.2.mapM listed? with
      | some members => .leaf mode (.set false members.flatten.eraseDups)
      | none => chain found.2
    Node.ofList (found.1 ++ [body])

/-- What an opening parenthesis begins. -/
inductive Opening
  | capture (name : Option (List Char))
  | plain (options : Options)
  | atomic
  | look (ahead positive : Bool)
  | choice (index : Nat)
  | settled (node : Node)
  | comment
  | wholeMode

/-- The signs after an opening parenthesis. -/
def readOpening (mode : Mode) : Reading Opening := do
  if !(← accept '?') then return .capture none
  match ← next with
  | some (.plain 'P') =>
    if ← accept '<' then
      let name ← takeName '>'
      if isName name then return .capture (some name) else malformed
    else if ← accept '=' then
      let name ← takeName ')'
      if !isName name then malformed
      return .settled (← reference mode (← groupNamed name))
    else malformed
  | some (.plain ':') => return .plain ⟨[], []⟩
  | some (.plain '#') =>
    skipComment
    return .comment
  | some (.plain '=') => return .look true true
  | some (.plain '!') => return .look true false
  | some (.plain '<') =>
    if ← accept '=' then return .look false true
    else if ← accept '!' then return .look false false
    else malformed
  | some (.plain '(') =>
    let name ← takeName ')'
    let index ← if isName name then groupNamed name else groupNumber name
    checkFence index
    return .choice index
  | some (.plain '>') => return .atomic
  | some (.plain c) =>
    if isOption c || c == '-' then
      match ← readOptions c with
      | some options => return .plain options
      | none => return .wholeMode
    else malformed
  | _ => malformed

mutual

/-- Alternatives up to a closing parenthesis or the end. -/
def readEither (mode : Mode) (outer : Bool) : Nat → Reading Node
  | 0 => malformed
  | fuel + 1 => do
    let first ← readSeq mode outer [] fuel
    let rest ← readMore mode outer fuel
    let scan ← get
    return choiceOf (if outer then scan.mode else mode) (first :: rest)

/-- Further alternatives. -/
def readMore (mode : Mode) (outer : Bool) : Nat → Reading (List Node)
  | 0 => malformed
  | fuel + 1 => do
    if !(← accept '|') then return []
    let scan ← get
    let node ← readSeq (if outer then scan.mode else mode) false [] fuel
    return node :: (← readMore mode outer fuel)

/-- Parts in a row; `items` holds those read so far, the latest first. -/
def readSeq (mode : Mode) (first : Bool) (items : List (Node × Last)) : Nat → Reading Node
  | 0 => malformed
  | fuel + 1 => do
    match ← peek with
    | none | some (.plain '|') | some (.plain ')') =>
      return Node.ofList ((items.reverse.map (·.1)).flatMap Node.parts)
    | some (.escaped c) =>
      let _ ← next
      let item ← escape mode c
      readSeq mode first (item :: items) fuel
    | some (.plain c) =>
      let _ ← next
      if mode.verbose && (c == ' ' || (0x09 ≤ c.toNat && c.toNat ≤ 0x0d)) then
        readSeq mode first items fuel
      else if mode.verbose && c == '#' then
        modify fun scan => { scan with rest := (scan.rest.dropWhile (· != .plain '\n')).drop 1 }
        readSeq mode first items fuel
      else
        match c with
        | '[' => readSeq mode first ((← readSet mode, .other) :: items) fuel
        | '.' => readSeq mode first ((.leaf mode .any, .other) :: items) fuel
        | '^' => readSeq mode first ((.anchor mode .lineStart, .anchor) :: items) fuel
        | '$' => readSeq mode first ((.anchor mode .lineEnd, .anchor) :: items) fuel
        | '(' => readGroup mode first items fuel
        | '?' | '*' | '+' | '{' =>
          match ← readCounts c with
          | none => readSeq mode first ((.leaf mode (.one c.toNat), .other) :: items) fuel
          | some counts => readSeq mode first (← repeated mode counts items) fuel
        | _ => readSeq mode first ((.leaf mode (.one c.toNat), .other) :: items) fuel

/-- A group and the parts after it. -/
def readGroup (mode : Mode) (first : Bool) (items : List (Node × Last)) : Nat → Reading Node
  | 0 => malformed
  | fuel + 1 => do
    match ← readOpening mode with
    | .settled node => readSeq mode first ((node, .other) :: items) fuel
    | .comment => readSeq mode first items fuel
    | .wholeMode =>
      if !first || !items.isEmpty then malformed
      let scan ← get
      readSeq scan.mode first items fuel
    | .capture name =>
      let index ← openGroup name
      descend 2
      let body ← readEither mode false fuel
      ascend 2
      closeGroup index body.width
      readSeq mode first ((.group index body, .other) :: items) fuel
    | .plain options =>
      descend 2
      let body ← readEither (mode.within options) false fuel
      ascend 2
      let node := if options.added.isEmpty && options.removed.isEmpty then body else .scoped body
      readSeq mode first ((node, .other) :: items) fuel
    | .atomic =>
      descend 2
      let body ← readEither mode false fuel
      ascend 2
      readSeq mode first ((.atomic body, .other) :: items) fuel
    | .look ahead positive =>
      let scan ← get
      if !ahead && scan.fence.isNone then
        set { scan with fence := some (scan.widths.size + 1) }
      descend 2
      let body ← readEither mode false fuel
      if !ahead && scan.fence.isNone then
        modify fun scan => { scan with fence := none }
      ascend 2
      readSeq mode first ((.look ahead positive body, .other) :: items) fuel
    | .choice index =>
      descend 1
      let yes ← readSeq mode false [] fuel
      let no ← if ← accept '|' then readSeq mode false [] fuel else pure .empty
      ascend 1
      readSeq mode first ((.ifGroup index yes no, .other) :: items) fuel

end

/-- A pattern from end to end. -/
def readAll (size : Nat) : Reading Node := do
  let start ← get
  let node ← readEither start.mode true (6 * size + 8)
  let scan ← get
  if scan.mode.ascii && scan.mode.unicode then throw .conflict
  if !scan.rest.isEmpty then malformed
  if scan.wanted.any (scan.widths.size < ·) then malformed
  if !node.looksBackAll Node.hasFixedWidth then malformed
  if !node.looksBackAll Node.isInReach then throw .tooFar
  return node

/-- The pattern that a text writes. -/
def read (text : String) : Except Defect Node := do
  match tokens? text.toList with
  | none => throw .malformed
  | some tokens =>
    let start : Scan := ⟨tokens, #[], [], none, [], Mode.default, 0⟩
    return (← (readAll tokens.length).run start).1

end CourseAudit.Pattern
