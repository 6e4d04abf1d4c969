/-!
Text patterns as trees. Every leaf carries the mode it is read in, so that options set within a
pattern need no context when it is matched.
-/
namespace CourseAudit.Pattern

/-- Options of a pattern or of a part of it. `unicode` is set only where the pattern asks for it
by name. -/
structure Mode where
  ignoreCase : Bool
  ascii : Bool
  unicode : Bool
  lines : Bool
  dotAll : Bool
  verbose : Bool
  template : Bool
deriving DecidableEq, Repr

/-- Letter case is ignored unless a pattern says otherwise. -/
def Mode.default : Mode := ⟨true, false, false, false, false, false, false⟩

inductive Kind
  | digit | blank | word
deriving DecidableEq, Repr

/-- What a set of characters lists; characters are given by their code points. -/
inductive Member
  | one (code : Nat)
  | span (low high : Nat)
  | kind (k : Kind) (negated : Bool)
deriving DecidableEq, Repr

/-- A test of a single character. -/
inductive Leaf
  | one (code : Nat)
  | other (code : Nat)
  | any
  | set (negated : Bool) (members : List Member)
deriving DecidableEq, Repr

/-- A test of a place between characters. -/
inductive Anchor
  | textStart | textEnd | lineStart | lineEnd | wordEdge | wordInside
deriving DecidableEq, Repr

/-- The least and the greatest number of characters that a part can take. -/
structure Width where
  low : Nat
  high : Nat
deriving DecidableEq, Repr

/-- How a repetition prefers its number of rounds. -/
inductive Greed
  | greedy | lazy | possessive
deriving DecidableEq, Repr

/-- A pattern. `scoped` is a group that only sets options, and `alternative` one of the parts of a
choice; a choice of many parts is a chain of `either`. -/
inductive Node
  | empty
  | leaf (mode : Mode) (test : Leaf)
  | anchor (mode : Mode) (place : Anchor)
  | seq (first second : Node)
  | either (first second : Node)
  | alternative (body : Node)
  | group (index : Nat) (body : Node)
  | scoped (body : Node)
  | again (mode : Mode) (index : Nat) (width : Width)
  | ifGroup (index : Nat) (yes no : Node)
  | loop (greed : Greed) (least : Nat) (most : Option Nat) (body : Node)
  | atomic (body : Node)
  | look (ahead positive : Bool) (body : Node)
deriving Repr

/-- Greatest widths are counted up to this bound, least widths to one less. -/
def widthLimit : Nat := Nat.pow 2 32 - 1

namespace Width

def clip (w : Width) : Width := ⟨min w.low (widthLimit - 1), min w.high widthLimit⟩

def add (v w : Width) : Width := clip ⟨v.low + w.low, v.high + w.high⟩

def join (v w : Width) : Width := ⟨min v.low w.low, max v.high w.high⟩

def times (w : Width) (least : Nat) (most : Option Nat) : Width :=
  clip ⟨w.low * least, w.high * most.getD widthLimit⟩

end Width

namespace Node

def width : Node → Width
  | .empty | .anchor .. | .look .. => ⟨0, 0⟩
  | .leaf .. => ⟨1, 1⟩
  | .seq a b => a.width.add b.width
  | .either a b => a.width.join b.width
  | .alternative body | .group _ body | .scoped body | .atomic body => body.width
  | .again _ _ w => w
  | .ifGroup _ yes no => yes.width.join no.width
  | .loop _ least most body => body.width.times least most

/-- Whether the bodies of all looks back within a pattern satisfy a condition. -/
def looksBackAll (p : Node → Bool) : Node → Bool
  | .empty | .leaf .. | .anchor .. | .again .. => true
  | .seq a b | .either a b | .ifGroup _ a b => a.looksBackAll p && b.looksBackAll p
  | .alternative body | .group _ body | .scoped body | .atomic body | .loop _ _ _ body =>
    body.looksBackAll p
  | .look ahead _ body => (ahead || p body) && body.looksBackAll p

/-- A look back needs a body of one known width. -/
def hasFixedWidth (node : Node) : Bool := node.width.low == node.width.high

/-- A look back reaches less far than this. -/
def reachLimit : Nat := Nat.pow 2 31

/-- Whether a look back can reach as far as its body is wide. -/
def isInReach (node : Node) : Bool := decide (node.width.low < reachLimit)

/-- The parts that a pattern has in a row; a group in parentheses is one part. -/
def parts : Node → List Node
  | .empty => []
  | .seq a b => a.parts ++ b.parts
  | node => [node]

/-- A row of parts as one. -/
def ofList : List Node → Node
  | [] => .empty
  | [node] => node
  | node :: rest => .seq node (ofList rest)

/-- The test of a single character that a pattern is, if it is one. -/
def single? : Node → Option (Mode × Leaf)
  | .leaf mode test => some (mode, test)
  | .scoped body => body.single?
  | _ => none

end Node

/-- What a pattern begins with: nothing when it takes nothing and tests nothing. -/
inductive Head
  | nothing
  | test (mode : Mode) (leaf : Leaf)
  | other
deriving DecidableEq, Repr

def Node.head : Node → Head
  | .empty => .nothing
  | .leaf mode test => .test mode test
  | .scoped body => body.head
  | .seq a b =>
    match a.head with
    | .nothing => b.head
    | head => head
  | _ => .other

end CourseAudit.Pattern
