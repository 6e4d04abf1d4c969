import CourseAudit.Pattern.Letter

/-!
Matching a whole text against a pattern, with backtracking. A part is run with what has to follow
it: the first way through both is the answer. A run leaves a trace, also when it fails: where it
last noted its place, and the marks of its groups. A choice that is taken back takes back the
marks that it added, and within a loop all that it changed. A possessive repetition goes on from
the place that its last round noted, even if that round failed.
-/
namespace CourseAudit.Pattern

/-- What a run leaves behind. Each group has two marks, for its beginning and its end; `marks` holds
those that count. -/
structure Trace where
  cursor : Nat
  marks : List (Option Nat)
deriving Repr

namespace Trace

/-- The trace with a place noted. -/
def noted (t : Trace) (pos : Nat) : Trace := { t with cursor := pos }

/-- Sets a mark. Marks that are passed over for the first time count as unset. -/
def mark (t : Trace) (index pos : Nat) : Trace :=
  { t with
    marks :=
      if index < t.marks.length then t.marks.set index (some pos)
      else t.marks ++ List.replicate (index - t.marks.length) none ++ [some pos] }

/-- Takes back marks to those of an earlier trace. Outside loops only the marks that were added
since are dropped. -/
def rewound (t : Trace) (deep : Bool) (earlier : Trace) : Trace :=
  { t with marks := if deep then earlier.marks else t.marks.take earlier.marks.length }

/-- The marks of a group when both of them count. -/
def ends? (t : Trace) (index : Nat) : Option (Nat × Nat) :=
  match t.marks[2 * index - 2]?, t.marks[2 * index - 1]? with
  | some (some start), some (some stop) => some (start, stop)
  | _, _ => none

/-- The part of the text that a group took. -/
def span? (t : Trace) (index : Nat) : Option (Nat × Nat) :=
  (t.ends? index).filter fun span => span.1 ≤ span.2

/-- Whether some group begins after its end. -/
def isTorn (t : Trace) : Bool :=
  (List.range (t.marks.length / 2)).any fun i =>
    ((t.ends? (i + 1)).map fun span => decide (span.2 < span.1)).getD false

end Trace

/-- A way on from a place, with the trace of a match or of a failure. -/
abbrev Way := Nat → Trace → Except Trace Trace

/-- The end of a part that is settled on its own. -/
def settled : Way := fun pos t => .ok (t.noted pos)

/-- How many characters in a row pass a test. -/
def runLength (text : Array Char) (mode : Mode) (test : Leaf) : Nat → Nat → Nat
  | 0, _ => 0
  | limit + 1, pos =>
    match text[pos]? with
    | some c => if test.holds mode c then runLength text mode test limit (pos + 1) + 1 else 0
    | none => 0

/-- The characters at a place that a repetition of a test takes; a list of letters notes how far it
came. -/
def takeRun (text : Array Char) (mode : Mode) (test : Leaf) (most : Option Nat) (pos : Nat)
    (t : Trace) : Nat × Trace :=
  let rest := text.size - pos
  let count := runLength text mode test (min (most.getD rest) rest) pos
  (count, t.noted (if test.isList mode then pos + count else pos))

/-- Tries what follows after `least + more` characters, and after fewer. Where a plain character
has to follow, places without it are passed over. -/
def giveBack (text : Array Char) (deep : Bool) (follow : Option Nat) (k : Way) (pos : Nat) :
    Nat → Way
  | more, least, t =>
    let place := pos + least + more
    let admitted := follow.all fun code => (text[place]?).any (·.toNat == code)
    let tried := if admitted then k place (t.noted place) else .error t
    match tried, more with
    | .ok found, _ => .ok found
    | .error t', 0 => .error (t'.rewound deep t)
    | .error t', more + 1 => giveBack text deep follow k pos more least (t'.rewound deep t)

/-- A repeated test that takes as much as it can. -/
def greedyRun (text : Array Char) (deep : Bool) (follow : Option Nat) (mode : Mode) (test : Leaf)
    (least : Nat) (most : Option Nat) (k : Way) : Way := fun pos t =>
  if text.size - pos < least then .error t
  else
    let (count, t) := takeRun text mode test most pos t
    if count < least then .error t else giveBack text deep follow k pos (count - least) least t

/-- Tries what follows, then takes one more character. -/
def takeMore (text : Array Char) (deep : Bool) (mode : Mode) (test : Leaf) (k : Way) :
    Nat → Option Nat → Way
  | 0, _, _, t => .error t
  | fuel + 1, room, pos, t =>
    match k pos (t.noted pos) with
    | .ok found => .ok found
    | .error t' =>
      let (count, t) := takeRun text mode test (some 1) pos (t'.rewound deep t)
      if count = 0 || room == some 0 then .error t
      else takeMore text deep mode test k fuel (room.map (· - 1)) (pos + 1) t

/-- A repeated test that takes as little as it can. -/
def lazyRun (text : Array Char) (deep : Bool) (mode : Mode) (test : Leaf) (least : Nat)
    (most : Option Nat) (k : Way) : Way := fun pos t =>
  if text.size - pos < least then .error t
  else
    let (count, t) := if least = 0 then (0, t.noted pos)
      else takeRun text mode test (some least) pos t
    if count < least then .error t
    else
      takeMore text deep mode test k (text.size - (pos + least) + 1)
        (most.map (· - least)) (pos + least) t

/-- A repeated test that gives nothing back. -/
def possessiveRun (text : Array Char) (mode : Mode) (test : Leaf) (least : Nat)
    (most : Option Nat) (k : Way) : Way := fun pos t =>
  if text.size - pos < least then .error t
  else
    let (count, t) := takeRun text mode test most pos t
    if count < least then .error t else k (pos + count) t

/-- Where a failure notes the place at which its part began. -/
def noting (way : Way) : Way := fun pos t =>
  match way pos (t.noted pos) with
  | .ok found => .ok found
  | .error t => .error (t.noted pos)

/-- More rounds first. After the least number of rounds, a round that took nothing is the last. -/
def roundsGreedy (step : Way → Way) (least : Nat) (most : Option Nat) (k : Way) :
    Nat → Nat → Option Nat → Way
  | 0, _, _ => k
  | fuel + 1, done, last =>
    noting fun pos t =>
      if done < least then step (roundsGreedy step least most k fuel (done + 1) last) pos t
      else if most.all (done < ·) && last != some pos then
        match step (roundsGreedy step least most k fuel (done + 1) (some pos)) pos t with
        | .ok found => .ok found
        | .error t' => k pos ((t'.rewound true t).noted pos)
      else k pos t

/-- What follows is tried before another round. -/
def roundsLazy (step : Way → Way) (deep : Bool) (least : Nat) (most : Option Nat) (k : Way) :
    Nat → Nat → Option Nat → Way
  | 0, _, _ => k
  | fuel + 1, done, last =>
    noting fun pos t =>
      if done < least then step (roundsLazy step deep least most k fuel (done + 1) last) pos t
      else
        match k pos t with
        | .ok found => .ok found
        | .error t' =>
          let t := (t'.rewound deep t).noted pos
          if most.all (done < ·) && last != some pos then
            step (roundsLazy step deep least most k fuel (done + 1) (some pos)) pos t
          else .error t

/-- Rounds that are never taken back, each settled on its own. The first round that fails is the
last, and where it stood is where the rounds end. -/
def roundsPossessive (step : Way) (least : Nat) (most : Option Nat) :
    Nat → Nat → Option Nat → Trace → Except Trace Trace
  | 0, _, _, t => .ok t
  | fuel + 1, done, last, t =>
    if done < least then
      match step t.cursor t with
      | .ok t => roundsPossessive step least most fuel (done + 1) last t
      | .error t => .error t
    else if most.all (done < ·) && last != some t.cursor then
      match step t.cursor t with
      | .ok t' => roundsPossessive step least most fuel (done + 1) (some t.cursor) t'
      | .error t' => .ok (t'.rewound true t)
    else .ok t

/-- Whether the first test of an alternative refuses what stands at a place, when case makes no
difference to it. -/
def Node.refuses (text : Array Char) (node : Node) (pos : Nat) : Bool :=
  match node.head with
  | .test mode (.one code) =>
    (Leaf.one code).isPlain mode && !(text[pos]?).any (Leaf.holds mode · (.one code))
  | .test mode (.set negated members) =>
    (Leaf.set negated members).isPlain mode &&
      !(text[pos]?).any (Leaf.holds mode · (.set negated members))
  | _ => false

/-- The plain character with which a part and what follows it begin, if they do. -/
def Node.initial (node : Node) (follow : Option Nat) : Option Nat :=
  match node.head with
  | .nothing => follow
  | .test mode (.one code) => if (Leaf.one code).isPlain mode then some code else none
  | _ => none

/-- Runs a part at a place with what follows it. `deep` says that the part stands in a loop, and
`follow` is the plain character that has to follow it, where one does. -/
def Node.run (text : Array Char) : Node → Bool → Option Nat → Way → Way
  | .empty, _, _, k, pos, t => k pos t
  | .leaf mode test, _, _, k, pos, t =>
    if (text[pos]?).any (test.holds mode) then k (pos + 1) t else .error t
  | .anchor mode place, _, _, k, pos, t =>
    if place.holds text mode pos then k pos t else .error t
  | .seq a b, deep, follow, k, pos, t =>
    a.run text deep (b.initial follow) (b.run text deep follow k) pos t
  | .either a b, deep, _, k, pos, t =>
    match a.run text deep none k pos t with
    | .ok found => .ok found
    | .error t' =>
      match b.run text deep none k pos (t'.rewound deep t) with
      | .ok found => .ok found
      | .error t' => .error (t'.rewound deep t)
  | .alternative body, deep, _, k, pos, t =>
    if body.refuses text pos then .error t else body.run text deep none k pos (t.noted pos)
  | .group index body, deep, _, k, pos, t =>
    body.run text deep none (fun q t => k q (t.mark (2 * index - 1) q)) pos
      (t.mark (2 * index - 2) pos)
  | .scoped body, deep, follow, k, pos, t => body.run text deep follow k pos t
  | .again mode index _, _, _, k, pos, t =>
    match t.span? index with
    | some (start, stop) =>
      let size := stop - start
      if sameSpan text mode start pos size then k (pos + size) t else .error t
    | none => .error t
  | .ifGroup index yes no, deep, follow, k, pos, t =>
    if (t.span? index).isSome then
      yes.run text deep (if no matches .empty then follow else none) k pos t
    else no.run text deep follow k pos t
  | .loop greed least most body, deep, follow, k, pos, t =>
    match body.single?, greed with
    | some (mode, test), .greedy => greedyRun text deep follow mode test least most k pos t
    | some (mode, test), .lazy => lazyRun text deep mode test least most k pos t
    | some (mode, test), .possessive => possessiveRun text mode test least most k pos t
    | none, greed =>
      let fuel := least + 2 * text.size + 2
      match greed with
      | .greedy => roundsGreedy (body.run text true none) least most k fuel 0 none pos t
      | .lazy => roundsLazy (body.run text true none) deep least most k fuel 0 none pos t
      | .possessive =>
        match roundsPossessive (body.run text deep none settled) least most fuel 0 none
            (t.noted pos) with
        | .ok t => k t.cursor t
        | .error t => .error (t.noted pos)
  | .atomic body, deep, _, k, pos, t =>
    match body.run text deep none settled pos (t.noted pos) with
    | .ok t => k t.cursor t
    | .error t => .error (t.noted pos)
  | .look ahead positive body, deep, _, k, pos, t =>
    let back := if ahead then 0 else body.width.low
    if pos < back then (if positive then .error t else k pos t)
    else
      match body.run text deep none settled (pos - back) (t.noted (pos - back)), positive with
      | .ok t, true => k pos t
      | .error t, true => .error t
      | .ok t, false => .error t
      | .error t', false => k pos (t'.rewound deep t)

/-- Whether a pattern takes the whole of a text; nothing when a group of the match ends before it
begins. -/
def Node.matchesAll? (node : Node) (text : String) : Option Bool :=
  let chars := text.toList.toArray
  let finish : Way := fun pos t => if pos = chars.size then .ok t else .error t
  if chars.size < node.width.low then some false
  else
    match node.run chars false none finish 0 ⟨0, []⟩ with
    | .ok t => if t.isTorn then none else some true
    | .error _ => some false

end CourseAudit.Pattern
