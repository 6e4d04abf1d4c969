import CourseAudit.Proofs.Sameness
import Mathlib.Data.List.DropRight
import Mathlib.Logic.Function.Basic

/-!
An editor of a group with two stacks: what can be undone, what is shown and what can be redone. It
knows nothing of cursors. A history answers every sequence of calls as such editors do, one for
each group that the keys name.
-/
namespace CourseAudit

/-- What can be undone stands oldest first, what can be redone next first. -/
structure Editor where
  past : List Snapshot
  present : Snapshot
  future : List Snapshot

namespace Editor

/-- Forgets the oldest snapshots beyond a limit, to which the present counts. A limit of zero is
none. -/
def trim : Option Nat → Editor → Editor
  | some (more + 1), e => { e with past := e.past.rtake more }
  | _, e => e

def record (limit : Option Nat) (c : Snapshot) (e : Editor) : Editor :=
  trim limit ⟨e.past ++ [e.present], c, []⟩

def undo (e : Editor) : Option Editor :=
  e.past.getLast?.map fun c => ⟨e.past.dropLast, c, e.present :: e.future⟩

def redo (e : Editor) : Option Editor :=
  e.future.head?.map fun c => ⟨e.past ++ [e.present], c, e.future.tail⟩

/-- The editor as snapshots in a row and the place of the present among them. -/
def timeline (e : Editor) : Timeline := ⟨e.past ++ e.present :: e.future, e.past.length⟩

/-- At most so many snapshots are held. A limit of zero is none. -/
def Within (limit : Option Nat) (e : Editor) : Prop :=
  limit.getD 0 ≠ 0 → e.timeline.snapshots.length ≤ limit.getD 0

/-- What is left of the past and the present are the last snapshots up to the limit. -/
theorem trim_line (limit : Nat) (positive : 0 < limit) (e : Editor) :
    (trim (some limit) e).past ++ [e.present] = (e.past ++ [e.present]).rtake limit := by
  obtain ⟨more, rfl⟩ : ∃ more, limit = more + 1 := ⟨limit - 1, by omega⟩
  rw [List.rtake_concat_succ]
  rfl

theorem trim_first (limit : Option Nat) (c : Snapshot) : trim limit ⟨[], c, []⟩ = ⟨[], c, []⟩ := by
  unfold trim
  split
  · rw [List.rtake_nil]
  · rfl

theorem undo_eq_some_iff {e e' : Editor} :
    e.undo = some e' ↔ e.past = e'.past ++ [e'.present] ∧ e'.future = e.present :: e.future := by
  rcases e with ⟨past, present, future⟩
  rcases e' with ⟨past', present', future'⟩
  rcases List.eq_nil_or_concat past with rfl | ⟨rest, last, rfl⟩
  · simp [undo]
  · simp [undo, eq_comm, and_assoc]

theorem redo_eq_some_iff {e e' : Editor} :
    e.redo = some e' ↔ e.future = e'.present :: e'.future ∧ e'.past = e.past ++ [e.present] := by
  rcases e with ⟨past, present, future⟩
  rcases e' with ⟨past', present', future'⟩
  cases future with
  | nil => simp [redo]
  | cons c rest => simp [redo]; tauto

theorem undo_isSome_iff {e : Editor} : e.undo.isSome = true ↔ e.past ≠ [] := by
  rw [undo, Option.isSome_map, List.getLast?_isSome]

theorem redo_isSome_iff {e : Editor} : e.redo.isSome = true ↔ e.future ≠ [] := by
  rw [redo, Option.isSome_map, List.isSome_head?]

/-- Redoing leads back from where undoing has led. -/
theorem undo_iff_redo {e e' : Editor} : e.undo = some e' ↔ e'.redo = some e := by
  rw [undo_eq_some_iff, redo_eq_some_iff, and_comm]

theorem snapshots_of_undo {e e' : Editor} (h : e.undo = some e') :
    e'.timeline.snapshots = e.timeline.snapshots := by
  obtain ⟨past, future⟩ := undo_eq_some_iff.mp h
  simp only [timeline, past, future, List.append_assoc, List.singleton_append]

theorem within_trim (limit : Option Nat) (past : List Snapshot) (c : Snapshot) :
    (trim limit ⟨past, c, []⟩).Within limit := by
  unfold Within
  match limit with
  | none => exact fun none => absurd rfl none
  | some 0 => exact fun zero => absurd rfl zero
  | some (more + 1) =>
      intro positive
      simp only [trim, timeline, List.rtake, List.length_append, List.length_drop,
        List.length_singleton, Option.getD_some]
      omega

theorem Within.undo {limit : Option Nat} {e e' : Editor} (h : e.Within limit)
    (undone : e.undo = some e') : e'.Within limit := by
  unfold Within
  rw [snapshots_of_undo undone]
  exact h

theorem Within.redo {limit : Option Nat} {e e' : Editor} (h : e.Within limit)
    (redone : e.redo = some e') : e'.Within limit := by
  unfold Within
  rw [← snapshots_of_undo (undo_iff_redo.mpr redone)]
  exact h

end Editor

namespace Timeline

open Editor

theorem current_timeline (e : Editor) : e.timeline.current = some e.present := by
  simp [current, timeline]

theorem canUndo_timeline (e : Editor) : e.timeline.canUndo = e.undo.isSome := by
  rw [Bool.eq_iff_iff, undo_isSome_iff]
  simp [canUndo, timeline, List.length_pos_iff]

theorem canRedo_timeline (e : Editor) : e.timeline.canRedo = e.redo.isSome := by
  rw [Bool.eq_iff_iff, redo_isSome_iff, canRedo, timeline, decide_eq_true_eq,
    ← List.length_pos_iff]
  simp only [List.length_append, List.length_cons]
  omega

theorem move_undo {e e' : Editor} (h : e.undo = some e') :
    e.timeline.move (-1) = (some e'.present, e'.timeline) := by
  obtain ⟨past, future⟩ := undo_eq_some_iff.mp h
  have moved : ({ e.timeline with cursor := e.timeline.cursor + -1 } : Timeline) = e'.timeline := by
    simp only [timeline, past, future, mk.injEq]
    simp
  rw [move, moved, current_timeline]

theorem move_redo {e e' : Editor} (h : e.redo = some e') :
    e.timeline.move 1 = (some e'.present, e'.timeline) := by
  obtain ⟨future, past⟩ := redo_eq_some_iff.mp h
  have moved : ({ e.timeline with cursor := e.timeline.cursor + 1 } : Timeline) = e'.timeline := by
    simp only [timeline, past, future, mk.injEq]
    simp
  rw [move, moved, current_timeline]

/-- Appending and dropping in the row of snapshots is recording and trimming. -/
theorem dropExcess_timeline (limit : Option Nat) (past : List Snapshot) (c : Snapshot) :
    dropExcess (limit.map Int.ofNat) (past ++ [c]) =
      (trim limit ⟨past, c, []⟩).timeline.snapshots := by
  match limit with
  | none => rfl
  | some 0 => rfl
  | some (more + 1) =>
      have nonzero : ((more + 1 : Nat) : Int) ≠ 0 := by omega
      have line := trim_line (more + 1) (by omega) ⟨past, c, []⟩
      have excess : (((past ++ [c]).length : Int) - (more + 1 : Nat)).toNat =
          (past ++ [c]).length - (more + 1) := by omega
      refine Eq.trans ?_ line.symm
      simp only [dropExcess, Option.map_some, Int.ofNat_eq_natCast, if_neg nonzero, excess]
      rfl

/-- The cursor is put on the last snapshot, which is the one that was recorded. -/
theorem recorded_eq (limit : Option Nat) (past : List Snapshot) (c : Snapshot) :
    let kept := dropExcess (limit.map Int.ofNat) (past ++ [c])
    (⟨kept, kept.length - 1⟩ : Timeline) = (trim limit ⟨past, c, []⟩).timeline := by
  intro kept
  have line : kept = (trim limit ⟨past, c, []⟩).timeline.snapshots := dropExcess_timeline ..
  have ends : (trim limit ⟨past, c, []⟩).future = [] := by
    unfold trim
    split <;> rfl
  rw [line]
  simp only [timeline, ends, mk.injEq, true_and, List.length_append, List.length_singleton]
  omega

theorem record_timeline (limit : Option Nat) (c : Snapshot) (e : Editor) :
    e.timeline.record (limit.map Int.ofNat) c =
      if sameAll Condition.same e.present c then (false, e.timeline)
      else (true, (e.record limit c).timeline) := by
  have upTo : e.timeline.snapshots.take (e.timeline.cursor + 1).toNat = e.past ++ [e.present] := by
    have count : (e.timeline.cursor + 1).toNat = e.past.length + 1 := by
      simp only [timeline]
      omega
    rw [count, timeline, List.take_length_add_append, List.take_succ_cons, List.take_zero]
  have kept := recorded_eq limit (e.past ++ [e.present]) c
  rw [record, current_timeline, upTo, Option.any_some]
  exact congrArg (fun t => if sameAll Condition.same e.present c then (false, e.timeline)
    else (true, t)) kept

theorem record_absent (limit : Option Nat) (c : Snapshot) :
    ({} : Timeline).record (limit.map Int.ofNat) c = (true, timeline (trim limit ⟨[], c, []⟩)) :=
  congrArg (Prod.mk true) (recorded_eq limit [] c)

end Timeline
end CourseAudit
