import CourseAudit.Task.Basic

/-!
Undo and redo of edits. Every group of conditions has a timeline of its own: the snapshots that
were recorded and a cursor on the one that is current. Recording after an undo drops what could
have been redone.
-/
namespace CourseAudit

namespace SubCondition

def same (s t : SubCondition) : Bool :=
  s.id.same t.id && s.property.same t.property && s.operator.same t.operator && s.value.same t.value

end SubCondition

/-- Whether two conditions are the same record. -/
def Condition.same (c d : Condition) : Bool :=
  c.id.same d.id && c.groupType.same d.groupType && c.source.same d.source &&
    c.property.same d.property && c.operator.same d.operator && c.value.same d.value &&
    c.subConditions.same SubCondition.same d.subConditions

/-- The conditions of a group at one time. -/
abbrev Snapshot := List Condition

/-- The cursor counts snapshots from zero; without snapshots it is at -1. -/
structure Timeline where
  snapshots : List Snapshot := []
  cursor : Int := -1
deriving Repr

namespace Timeline

def current (t : Timeline) : Option Snapshot :=
  if 0 ≤ t.cursor then t.snapshots[t.cursor.toNat]? else none

def canUndo (t : Timeline) : Bool := decide (0 < t.cursor)

def canRedo (t : Timeline) : Bool := decide (t.cursor < t.snapshots.length - 1)

/-- A limit of zero is none. Of more snapshots than the limit the first ones are dropped. -/
def dropExcess (limit : Option Int) (snapshots : List Snapshot) : List Snapshot :=
  match limit with
  | none => snapshots
  | some limit =>
    if limit = 0 then snapshots else snapshots.drop ((snapshots.length : Int) - limit).toNat

/-- Appends a snapshot after the current one, unless it is the same. -/
def record (limit : Option Int) (snapshot : Snapshot) (t : Timeline) : Bool × Timeline :=
  if t.current.any (sameAll Condition.same · snapshot) then (false, t)
  else
    let kept := dropExcess limit (t.snapshots.take (t.cursor + 1).toNat ++ [snapshot])
    (true, ⟨kept, kept.length - 1⟩)

/-- Moves the cursor and gives the snapshot there. -/
def move (step : Int) (t : Timeline) : Option Snapshot × Timeline :=
  let moved : Timeline := { t with cursor := t.cursor + step }
  (moved.current, moved)

end Timeline

/-- Timelines by group, with the most snapshots that each of them keeps. -/
structure History (K : Type) where
  limit : Option Int
  timelines : List (K × Timeline) := []

/-- A key that names groups. Two keys may name the same group without being equal. -/
class GroupKey (K : Type) where
  same : K → K → Bool

instance : GroupKey Value := ⟨Value.same⟩

instance : GroupKey (String × String) := ⟨fun k l => k == l⟩

namespace History

variable {K : Type} [GroupKey K]

def timeline? (h : History K) (key : K) : Option Timeline :=
  (h.timelines.find? fun entry => GroupKey.same entry.1 key).map (·.2)

/-- Replaces the timeline of a group in its place, or adds it at the end. -/
def putTimeline (key : K) (t : Timeline) : List (K × Timeline) → List (K × Timeline)
  | [] => [(key, t)]
  | entry :: rest =>
    if GroupKey.same entry.1 key then (entry.1, t) :: rest else entry :: putTimeline key t rest

def put (h : History K) (key : K) (t : Timeline) : History K :=
  { h with timelines := putTimeline key t h.timelines }

/-- Records the conditions of a group; false when nothing has changed. -/
def record (h : History K) (key : K) (snapshot : Snapshot) : Bool × History K :=
  let (recorded, t) := ((h.timeline? key).getD {}).record h.limit snapshot
  (recorded, h.put key t)

def canUndo (h : History K) (key : K) : Bool := (h.timeline? key).any Timeline.canUndo

def canRedo (h : History K) (key : K) : Bool := (h.timeline? key).any Timeline.canRedo

/-- Moves the cursor of a group where there is something to move to. -/
def move (h : History K) (can : Timeline → Bool) (step : Int) (key : K) :
    Option Snapshot × History K :=
  match h.timeline? key with
  | none => (none, h)
  | some t =>
    if can t then
      let (snapshot, moved) := t.move step
      (snapshot, h.put key moved)
    else (none, h)

/-- Steps back and gives the conditions to restore. -/
def undo (h : History K) (key : K) : Option Snapshot × History K :=
  h.move Timeline.canUndo (-1) key

/-- Steps forward again. -/
def redo (h : History K) (key : K) : Option Snapshot × History K :=
  h.move Timeline.canRedo 1 key

def current (h : History K) (key : K) : Option Snapshot := (h.timeline? key).bind Timeline.current

/-- Forgets all about a group. -/
def clear (h : History K) (key : K) : History K :=
  { h with timelines := h.timelines.filter fun entry => !GroupKey.same entry.1 key }

end History
end CourseAudit
