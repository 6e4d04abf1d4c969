/-!
The ways in which reading or comparing a value can fail. A fault names its cause; what is done
about it is decided where it arises.
-/
namespace CourseAudit

inductive Fault
  /-- A number leaves the range that its form can hold. -/
  | overflow
  /-- A number or a text means nothing in the form asked for. -/
  | meaningless
  /-- A value is of a kind that the operation has no rule for. -/
  | mismatch
  /-- A value has no part of the name asked for. -/
  | absent
  /-- The parts of a text are nested more deeply than a reader follows. -/
  | tooDeep
  /-- A part of a pattern reaches further than a matcher goes. -/
  | tooFar
  /-- A match has a part that ends before it begins. -/
  | torn
deriving DecidableEq, Repr

/-- A question that may fail before it has an answer. -/
abbrev Test := Except Fault Bool

namespace Test

/-- Yes as soon as the first question says so; the second is asked only otherwise. -/
def or (first second : Test) : Test :=
  match first with
  | .ok false => second
  | _ => first

/-- The second question is asked only when the first says yes. -/
def and (first second : Test) : Test :=
  match first with
  | .ok true => second
  | _ => first

/-- Whether some member says yes, asked up to the first that does or fails. -/
def any {α : Type} (p : α → Test) : List α → Test
  | [] => .ok false
  | a :: rest => (p a).or (any p rest)

/-- Whether all members say yes, asked up to the first that does not or fails. -/
def all {α : Type} (p : α → Test) : List α → Test
  | [] => .ok true
  | a :: rest => (p a).and (all p rest)

/-- The members that say yes, as long as none fails. -/
def filter {α : Type} (p : α → Test) : List α → Except Fault (List α)
  | [] => .ok []
  | a :: rest => do
    let keep ← p a
    let kept ← filter p rest
    return if keep then a :: kept else kept

/-- A question that fails counts as answered no. -/
def holds (t : Test) : Bool :=
  match t with
  | .ok b => b
  | .error _ => false

end Test
end CourseAudit
