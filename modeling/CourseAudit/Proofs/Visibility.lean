import CourseAudit.Proofs.History
import CourseAudit.Proofs.Symmetry
import Mathlib.Data.List.Chain

/-!
Steps through a history can be seen. A snapshot is recorded only where it differs from the current
one, which is what it comes to stand behind, so that undoing and redoing always lead to something
else than what was shown.
-/
namespace CourseAudit

open GroupNames

/-- Two snapshots, the earlier one first, are not the same record; nor are they the other way round,
as long as the names of dicts occur once. -/
structure Differs (earlier later : Snapshot) : Prop where
  forth : sameAll Condition.same earlier later = false
  back : (∀ c ∈ earlier, c.NamedOnce) → (∀ c ∈ later, c.NamedOnce) →
    sameAll Condition.same later earlier = false

theorem differs_iff {earlier later : Snapshot} :
    Differs earlier later ↔ sameAll Condition.same earlier later = false := by
  refine ⟨Differs.forth, fun forth => ⟨forth, fun once onceMore => ?_⟩⟩
  rw [← Bool.not_eq_true] at forth ⊢
  exact fun alike => forth (sameAll_symm (fun c there d here =>
    Condition.same_symm (onceMore c there) (once d here)) alike)

namespace Editor

variable {limit : Option Nat} {e e' : Editor}

/-- Neighbouring snapshots differ. -/
def Varied (e : Editor) : Prop := e.timeline.snapshots.IsChain Differs

theorem varied_first (c : Snapshot) : Varied ⟨[], c, []⟩ := .singleton c

/-- Trimming forgets from the front. -/
theorem trim_suffix (limit : Option Nat) (past : List Snapshot) (c : Snapshot) :
    (trim limit ⟨past, c, []⟩).timeline.snapshots <:+ past ++ [c] := by
  rw [← Timeline.dropExcess_timeline]
  unfold Timeline.dropExcess
  split
  · exact List.suffix_refl _
  · split
    · exact List.suffix_refl _
    · exact List.drop_suffix _ _

theorem present_trim (limit : Option Nat) (past : List Snapshot) (c : Snapshot) :
    (trim limit ⟨past, c, []⟩).present = c := by
  unfold trim
  split <;> rfl

/-- What is recorded comes to stand behind the present, whatever stood there. -/
theorem Varied.record (h : e.Varied) {c : Snapshot} (new : Differs e.present c) :
    (e.record limit c).Varied := by
  have line : e.timeline.snapshots = (e.past ++ [e.present]) ++ e.future := by simp [timeline]
  rw [Varied, line] at h
  have extended : ((e.past ++ [e.present]) ++ [c]).IsChain Differs := by
    refine h.left_of_append.append (.singleton c) ?_
    rintro last ends first begins
    cases begins
    rw [List.getLast?_concat, Option.mem_some_iff] at ends
    exact ends ▸ new
  exact extended.suffix (trim_suffix limit (e.past ++ [e.present]) c)

theorem Varied.undo (h : e.Varied) (undone : e.undo = some e') : e'.Varied := by
  rw [Varied, snapshots_of_undo undone]
  exact h

theorem Varied.redo (h : e.Varied) (redone : e.redo = some e') : e'.Varied := by
  rw [Varied, ← snapshots_of_undo (undo_iff_redo.mpr redone)]
  exact h

/-- Redoing leads to a neighbour, and so does undoing. -/
theorem Varied.next (h : e.Varied) (redone : e.redo = some e') : Differs e.present e'.present := by
  obtain ⟨future, -⟩ := redo_eq_some_iff.mp redone
  rw [Varied, timeline, future] at h
  exact (List.isChain_cons_cons.mp h.right_of_append).1

theorem varied_go {shift : Editor → Option Editor} {e : Option Editor}
    (h : ∀ editor ∈ e, editor.Varied)
    (keeps : ∀ {e e' : Editor}, e.Varied → shift e = some e' → e'.Varied) :
    ∀ editor ∈ (go shift e).2, editor.Varied := by
  unfold go
  split
  · next next shifted =>
      obtain ⟨editor, given, shifts⟩ := Option.bind_eq_some_iff.mp shifted
      rintro other ⟨⟩
      exact keeps (h editor given) shifts
  · exact h

/-- No call brings two snapshots together that are the same. -/
theorem varied_call {e : Option Editor} (h : ∀ editor ∈ e, editor.Varied)
    (command : History.Command) : ∀ editor ∈ (call limit e command).2, editor.Varied := by
  cases command with
  | record c =>
      cases e with
      | none =>
          rintro editor ⟨⟩
          exact varied_first c
      | some e =>
          unfold call
          dsimp only
          split
          · exact h
          · next differs =>
              rintro editor ⟨⟩
              exact (h e rfl).record (differs_iff.mpr (Bool.eq_false_of_not_eq_true differs))
  | undo => exact varied_go h Varied.undo
  | redo => exact varied_go h Varied.redo
  | current => exact h
  | clear => exact fun editor none => absurd none.symm (Option.some_ne_none editor)

end Editor

variable {K : Type} [GroupKey K] [GroupNames K] {limit : Option Nat}

theorem Editors.varied_run {editors : Editors K}
    (h : ∀ group, ∀ e ∈ editors group, Editor.Varied e) (calls : List (K × History.Command)) :
    ∀ group, ∀ e ∈ (Editors.run limit editors calls).2 group, Editor.Varied e := by
  induction calls generalizing editors with
  | nil => exact h
  | cons call rest ih =>
      obtain ⟨key, command⟩ := call
      refine ih fun group e member => ?_
      by_cases same : name key = group
      · subst same
        rw [Editors.set_self] at member
        exact Editor.varied_call (h (name key)) command e member
      · rw [Editors.set_of_ne _ same] at member
        exact h group e member

namespace History

variable {h : History K} {editors : Editors K} {key : K}

/-- What a move shows is where the editor of the group goes, and it is current afterwards. -/
theorem Follows.shown (f : Follows limit h editors) (hk : IsKey key)
    {shift : Editor → Option Editor} {moved : Option Snapshot × History K}
    (moves : moved = match (editors (name key)).bind shift with
      | some e => (some e.present, h.put key e.timeline)
      | none => (none, h))
    (keeps : ∀ {e e' : Editor}, e.Within limit → shift e = some e' → e'.Within limit)
    {c : Snapshot} (given : moved.1 = some c) :
    (∃ e e', e ∈ editors (name key) ∧ h.current key = some e.present ∧ shift e = some e' ∧
      c = e'.present) ∧ moved.2.current key = some c := by
  subst moves
  cases shifted : (editors (name key)).bind shift with
  | none =>
      rw [shifted] at given
      exact absurd given.symm (Option.some_ne_none c)
  | some e' =>
      rw [shifted] at given
      obtain ⟨e, group, shifts⟩ := Option.bind_eq_some_iff.mp shifted
      have present : e'.present = c := Option.some.inj given
      have current := f.current_eq hk
      rw [group, Option.map_some] at current
      have next := f.put hk (keeps (f.within _ e group) shifts)
      refine ⟨⟨e, e', group, current, shifts, present.symm⟩, ?_⟩
      rw [next.current_eq hk, Editors.set_self, Option.map_some, present]

/-- What has been recorded is what is current. -/
theorem Follows.recorded (f : Follows limit h editors) (hk : IsKey key) {c : Snapshot}
    (changed : (h.record key c).1 = true) : (h.record key c).2.current key = some c := by
  obtain ⟨answer, next⟩ := f.record hk c
  rw [changed] at answer
  rw [next.current_eq hk, Editors.set_self]
  cases group : editors (name key) with
  | none => rfl
  | some e =>
      rw [group] at answer
      unfold Editor.call at answer ⊢
      dsimp only at answer ⊢
      split
      · next alike =>
          rw [if_pos alike] at answer
          cases answer
      · exact congrArg some (Editor.present_trim limit _ c)

/-- What steps through the history of a group show. -/
structure IsVisible (h : History K) (key : K) : Prop where
  neighbours : ∀ t, h.timeline? key = some t → t.snapshots.IsChain Differs
  undone : ∀ c, (h.undo key).1 = some c → (h.undo key).2.current key = some c ∧
    ∃ before, h.current key = some before ∧ Differs c before
  redone : ∀ c, (h.redo key).1 = some c → (h.redo key).2.current key = some c ∧
    ∃ before, h.current key = some before ∧ Differs before c
  recorded : ∀ c, (h.record key c).1 = true → (h.record key c).2.current key = some c

theorem Follows.isVisible (f : Follows limit h editors) (hk : IsKey key)
    (varied : ∀ e ∈ editors (name key), Editor.Varied e) : h.IsVisible key where
  neighbours := by
    intro t found
    rw [f.timeline key hk] at found
    obtain ⟨e, group, rfl⟩ := Option.map_eq_some_iff.mp found
    exact varied e group
  undone := by
    intro c given
    obtain ⟨⟨e, e', group, current, undone, rfl⟩, after⟩ :=
      f.shown hk (f.undo_eq hk) Editor.Within.undo given
    have earlier : e'.Varied := (varied e group).undo undone
    exact ⟨after, e.present, current, earlier.next (Editor.undo_iff_redo.mp undone)⟩
  redone := by
    intro c given
    obtain ⟨⟨e, e', group, current, redone, rfl⟩, after⟩ :=
      f.shown hk (f.redo_eq hk) Editor.Within.redo given
    exact ⟨after, e.present, current, (varied e group).next redone⟩
  recorded := fun _ changed => f.recorded hk changed

/-- Whatever is called, every step through the history of a group shows a change. -/
theorem steps_visible (limit : Option Nat) (calls : List (K × Command))
    (keys : ∀ call ∈ calls, IsKey call.1) (key : K) (hk : IsKey key) :
    ((⟨limit.map Int.ofNat, []⟩ : History K).run calls).2.IsVisible key := by
  obtain ⟨-, follows⟩ := (@follows_nothing K _ _ limit).run keys
  apply follows.isVisible hk
  apply Editors.varied_run
  intro group e none
  exact absurd none.symm (Option.some_ne_none e)

/-- What was undone is recorded again, and an undo too many goes nowhere. -/
def reworked : List (Value × Command) :=
  [(.int 1, .record (single "Name")), (.int 1, .record (single "Status")),
    (.int 1, .record (single "Files")), (.bool true, .undo), (.int 1, .record (single "Files")),
    (.int 1, .undo), (.bool true, .undo), (.int 1, .record (single "Status"))]

/-- Of two snapshots that are kept, redoing shows the other one. -/
theorem steps_visible_reworked : (∀ call ∈ reworked, IsKey call.1) ∧ IsKey (Value.int 1) ∧
    ∃ before, ((⟨some 2, []⟩ : History Value).run reworked).2.current (.int 1) = some before ∧
      (((⟨some 2, []⟩ : History Value).run reworked).2.redo (.int 1)).1 = some (single "Files") ∧
      Differs before (single "Files") := by
  have keys : ∀ call ∈ reworked, IsKey call.1 := by
    simp only [reworked, List.forall_mem_cons]
    exact ⟨rfl, rfl, rfl, rfl, rfl, rfl, rfl, rfl, fun _ none => absurd none List.not_mem_nil⟩
  have visible := steps_visible (some 2) reworked keys (.int 1) rfl
  have redone : (((⟨some 2, []⟩ : History Value).run reworked).2.redo (.int 1)).1 =
      some (single "Files") := rfl
  obtain ⟨-, before, current, differs⟩ := visible.redone _ redone
  exact ⟨keys, rfl, before, current, redone, differs⟩

end History
end CourseAudit
