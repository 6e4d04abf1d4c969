import CourseAudit.Proofs.Editor

/-!
Runs of a history. Calls for one group leave the timelines of all others as they are, and each call
does to the timeline of its group what it does to an editor.
-/
namespace CourseAudit

open GroupNames

variable {K : Type} [GroupKey K]

namespace History

/-- What can be asked of the history of a group. -/
inductive Command
  | record (conditions : Snapshot)
  | undo
  | redo
  | current
  | clear

inductive Answer
  | recorded (changed : Bool)
  | shown (conditions : Option Snapshot)
  | cleared

def call (h : History K) (key : K) : Command → Answer × History K
  | .record c => (.recorded (h.record key c).1, (h.record key c).2)
  | .undo => (.shown (h.undo key).1, (h.undo key).2)
  | .redo => (.shown (h.redo key).1, (h.redo key).2)
  | .current => (.shown (h.current key), h)
  | .clear => (.cleared, h.clear key)

/-- The answers to calls made one after the other, and the history after them. -/
def run (h : History K) : List (K × Command) → List Answer × History K
  | [] => ([], h)
  | (key, command) :: calls =>
    let next := h.call key command
    let rest := next.2.run calls
    (next.1 :: rest.1, rest.2)

end History

namespace Editor

open History (Command Answer)

/-- Goes from one snapshot to another, where there is an editor and a snapshot to go to. -/
def go (shift : Editor → Option Editor) (e : Option Editor) : Answer × Option Editor :=
  match e.bind shift with
  | some next => (.shown (some next.present), some next)
  | none => (.shown none, e)

/-- What a call does to a group, which has no editor before its first snapshot. -/
def call (limit : Option Nat) (e : Option Editor) : Command → Answer × Option Editor
  | .record c => match e with
    | none => (.recorded true, some ⟨[], c, []⟩)
    | some e => if sameAll Condition.same e.present c then (.recorded false, some e)
      else (.recorded true, some (e.record limit c))
  | .undo => go undo e
  | .redo => go redo e
  | .current => (.shown (e.map present), e)
  | .clear => (.cleared, none)

end Editor

/-- The editors of all groups. -/
abbrev Editors (K : Type) [GroupKey K] [GroupNames K] := Name K → Option Editor

namespace Editors

open History (Command Answer)

variable [GroupNames K]

open Classical in
/-- The editors after that of one group has changed. -/
noncomputable def set (editors : Editors K) (group : Name K) (e : Option Editor) : Editors K :=
  fun other => if group = other then e else editors other

@[simp] theorem set_self (editors : Editors K) (group : Name K) (e : Option Editor) :
    editors.set group e group = e := if_pos rfl

theorem set_of_ne (editors : Editors K) {group other : Name K} (h : group ≠ other)
    (e : Option Editor) : editors.set group e other = editors other := if_neg h

theorem set_own (editors : Editors K) (group : Name K) :
    editors.set group (editors group) = editors := by
  funext other
  by_cases same : group = other
  · rw [same, set_self]
  · exact set_of_ne editors same _

/-- The answers of editors to calls made one after the other, and the editors after them. -/
noncomputable def run (limit : Option Nat) (editors : Editors K) :
    List (K × Command) → List Answer × Editors K
  | [] => ([], editors)
  | (key, command) :: calls =>
    let next := Editor.call limit (editors (name key)) command
    let rest := run limit (editors.set (name key) next.2) calls
    (next.1 :: rest.1, rest.2)

end Editors

namespace History

theorem timeline?_cons (limit : Option Int) (entry : K × Timeline) (rest : List (K × Timeline))
    (key : K) : timeline? ⟨limit, entry :: rest⟩ key =
      if GroupKey.same entry.1 key then some entry.2 else timeline? ⟨limit, rest⟩ key := by
  unfold timeline?
  rw [List.find?_cons]
  split
  · next same => rw [if_pos same]; rfl
  · next other => rw [if_neg (by rw [other]; decide)]

/-- Putting back what a group had changes nothing, and undoes whatever was put in its place. -/
theorem put_of_timeline? {h : History K} {key : K} {t : Timeline}
    (found : h.timeline? key = some t) :
    h.put key t = h ∧ ∀ t' : Timeline, (h.put key t').put key t = h := by
  rcases h with ⟨limit, timelines⟩
  have restored : putTimeline key t timelines = timelines ∧
      ∀ t', putTimeline key t (putTimeline key t' timelines) = timelines := by
    induction timelines with
    | nil => cases found
    | cons entry rest ih =>
        rw [timeline?_cons] at found
        by_cases same : GroupKey.same entry.1 key = true
        · rw [if_pos same] at found
          cases found
          simp only [putTimeline, if_pos same, implies_true, and_self]
        · rw [if_neg same] at found
          simp only [putTimeline, if_neg same, ih found, implies_true, and_self]
  refine ⟨congrArg (History.mk limit) restored.1, ?_⟩
  intro t'
  exact congrArg (History.mk limit) (restored.2 t')

variable [GroupNames K]

/-- Every timeline belongs to a key that names a group. -/
def Keyed (h : History K) : Prop := ∀ entry ∈ h.timelines, IsKey entry.1

theorem Keyed.put {h : History K} (keyed : h.Keyed) {key : K} (named : IsKey key) (t : Timeline) :
    (h.put key t).Keyed := by
  rcases h with ⟨limit, timelines⟩
  change ∀ entry ∈ putTimeline key t timelines, IsKey entry.1
  induction timelines with
  | nil => simpa [putTimeline] using named
  | cons entry rest ih =>
      have later := ih fun e member => keyed e (List.mem_cons_of_mem _ member)
      have first : IsKey entry.1 := keyed entry List.mem_cons_self
      unfold putTimeline
      split
      · exact List.forall_mem_cons.mpr ⟨first, fun e m => keyed e (List.mem_cons_of_mem _ m)⟩
      · exact List.forall_mem_cons.mpr ⟨first, later⟩

theorem Keyed.clear {h : History K} (keyed : h.Keyed) (key : K) : (h.clear key).Keyed :=
  fun entry member => keyed entry (List.mem_of_mem_filter member)

open Classical in
theorem timeline?_cons_of_isKey {limit : Option Int} {k key : K} {t : Timeline}
    {rest : List (K × Timeline)} (first : IsKey k) (hk : IsKey key) :
    timeline? ⟨limit, (k, t) :: rest⟩ key =
      if name k = name key then some t else timeline? ⟨limit, rest⟩ key := by
  rw [timeline?_cons]
  exact if_congr (same_iff first hk) rfl rfl

open Classical in
theorem timeline?_put {h : History K} (keyed : h.Keyed) {key other : K} (hk : IsKey key)
    (ho : IsKey other) (t : Timeline) : (h.put key t).timeline? other =
      if name key = name other then some t else h.timeline? other := by
  rcases h with ⟨limit, timelines⟩
  change timeline? ⟨limit, putTimeline key t timelines⟩ other = _
  induction timelines with
  | nil => exact timeline?_cons_of_isKey hk ho
  | cons entry rest ih =>
      obtain ⟨k, u⟩ := entry
      have first : IsKey k := keyed (k, u) List.mem_cons_self
      have later := ih fun e member => keyed e (List.mem_cons_of_mem _ member)
      rw [putTimeline, timeline?_cons_of_isKey first ho]
      by_cases same : name k = name key
      · rw [if_pos ((same_iff first hk).mpr same), timeline?_cons_of_isKey first ho, same]
        split
        · rfl
        · rfl
      · rw [if_neg (mt (same_iff first hk).mp same), timeline?_cons_of_isKey first ho, later]
        split
        · next found => rw [if_neg fun h => same (found.trans h.symm)]
        · rfl

open Classical in
theorem timeline?_clear {h : History K} (keyed : h.Keyed) {key other : K} (hk : IsKey key)
    (ho : IsKey other) : (h.clear key).timeline? other =
      if name key = name other then none else h.timeline? other := by
  rcases h with ⟨limit, timelines⟩
  unfold clear
  induction timelines with
  | nil =>
      split
      · rfl
      · rfl
  | cons entry rest ih =>
      obtain ⟨k, u⟩ := entry
      have first : IsKey k := keyed (k, u) List.mem_cons_self
      have later := ih fun e member => keyed e (List.mem_cons_of_mem _ member)
      rw [timeline?_cons_of_isKey first ho]
      by_cases same : name k = name key
      · rw [List.filter_cons_of_neg (by simpa using (same_iff first hk).mpr same), later, same]
        split
        · rfl
        · rfl
      · rw [List.filter_cons_of_pos (by simpa using mt (same_iff first hk).mp same),
          timeline?_cons_of_isKey first ho, later]
        split
        · next found => rw [if_neg fun h => same (found.trans h.symm)]
        · rfl

/-- A history that holds the snapshots of editors, group by group. -/
structure Follows (limit : Option Nat) (h : History K) (editors : Editors K) :
    Prop where
  limited : h.limit = limit.map Int.ofNat
  keyed : h.Keyed
  timeline : ∀ key, IsKey key → h.timeline? key = (editors (name key)).map Editor.timeline
  within : ∀ group e, editors group = some e → e.Within limit

section Follows

variable {limit : Option Nat} {h : History K} {editors : Editors K} {key : K}

theorem follows_nothing : Follows limit (⟨limit.map Int.ofNat, []⟩ : History K) fun _ => none where
  limited := rfl
  keyed := fun _ member => absurd member List.not_mem_nil
  timeline := fun _ _ => rfl
  within := fun _ _ none => absurd none.symm (Option.some_ne_none _)

open Classical in
/-- A change of the timeline of one group is a change of its editor. -/
theorem Follows.changed (f : Follows limit h editors) {after : History K} {e : Option Editor}
    (limited : after.limit = h.limit) (keyed : after.Keyed)
    (timelines : ∀ other, IsKey other → after.timeline? other =
      if name key = name other then e.map Editor.timeline else h.timeline? other)
    (within : ∀ editor, e = some editor → editor.Within limit) :
    Follows limit after (editors.set (name key) e) where
  limited := limited.trans f.limited
  keyed := keyed
  timeline := by
    intro other ho
    rw [timelines other ho]
    by_cases same : name key = name other
    · rw [if_pos same, same, Editors.set_self]
    · rw [if_neg same, Editors.set_of_ne _ same, f.timeline other ho]
  within := by
    intro group editor
    by_cases same : name key = group
    · rw [same, Editors.set_self]
      exact within editor
    · rw [Editors.set_of_ne _ same]
      exact f.within group editor

theorem Follows.put (f : Follows limit h editors) (hk : IsKey key) {e : Editor}
    (within : e.Within limit) :
    Follows limit (h.put key e.timeline) (editors.set (name key) (some e)) := by
  refine f.changed rfl (f.keyed.put hk _) (fun other ho => timeline?_put f.keyed hk ho _) ?_
  rintro editor ⟨⟩
  exact within

theorem Follows.clear (f : Follows limit h editors) (hk : IsKey key) :
    Follows limit (h.clear key) (editors.set (name key) none) := by
  refine f.changed rfl (f.keyed.clear key) (fun other ho => timeline?_clear f.keyed hk ho) ?_
  exact fun editor none => absurd none.symm (Option.some_ne_none editor)

theorem Follows.unchanged (f : Follows limit h editors) :
    Follows limit h (editors.set (name key) (editors (name key))) := by
  rw [Editors.set_own]
  exact f

theorem Follows.record_eq (f : Follows limit h editors) (hk : IsKey key) (c : Snapshot) :
    h.record key c = match editors (name key) with
      | none => (true, h.put key (Editor.timeline ⟨[], c, []⟩))
      | some e => if sameAll Condition.same e.present c then (false, h)
        else (true, h.put key (e.record limit c).timeline) := by
  have held := f.timeline key hk
  unfold record
  rw [f.limited]
  cases group : editors (name key) with
  | none =>
      rw [group, Option.map_none] at held
      rw [held, Option.getD_none, Timeline.record_absent, Editor.trim_first]
  | some e =>
      rw [group, Option.map_some] at held
      rw [held, Option.getD_some, Timeline.record_timeline]
      dsimp only
      split
      · rw [(put_of_timeline? held).1]
      · rfl

/-- Moving a cursor is going from one snapshot to the next. -/
theorem Follows.move_eq (f : Follows limit h editors) (hk : IsKey key) {can : Timeline → Bool}
    {step : Int} {shift : Editor → Option Editor} (able : ∀ e, can e.timeline = (shift e).isSome)
    (moved : ∀ e e', shift e = some e' → e.timeline.move step = (some e'.present, e'.timeline)) :
    h.move can step key = match (editors (name key)).bind shift with
      | some e => (some e.present, h.put key e.timeline)
      | none => (none, h) := by
  have held := f.timeline key hk
  unfold move
  cases group : editors (name key) with
  | none =>
      rw [group, Option.map_none] at held
      rw [held]
      rfl
  | some e =>
      rw [group, Option.map_some] at held
      rw [held, Option.bind_some]
      dsimp only
      rw [able]
      cases shifted : shift e with
      | none => rfl
      | some e' => rw [moved e e' shifted]; rfl

theorem Follows.undo_eq (f : Follows limit h editors) (hk : IsKey key) :
    h.undo key = match (editors (name key)).bind Editor.undo with
      | some e => (some e.present, h.put key e.timeline)
      | none => (none, h) :=
  f.move_eq hk Timeline.canUndo_timeline fun _ _ => Timeline.move_undo

theorem Follows.redo_eq (f : Follows limit h editors) (hk : IsKey key) :
    h.redo key = match (editors (name key)).bind Editor.redo with
      | some e => (some e.present, h.put key e.timeline)
      | none => (none, h) :=
  f.move_eq hk Timeline.canRedo_timeline fun _ _ => Timeline.move_redo

theorem Follows.current_eq (f : Follows limit h editors) (hk : IsKey key) :
    h.current key = (editors (name key)).map Editor.present := by
  rw [current, f.timeline key hk]
  cases editors (name key) with
  | none => rfl
  | some e => exact Timeline.current_timeline e

theorem Follows.go (f : Follows limit h editors) (hk : IsKey key)
    {shift : Editor → Option Editor} {moved : Option Snapshot × History K}
    (moves : moved = match (editors (name key)).bind shift with
      | some e => (some e.present, h.put key e.timeline)
      | none => (none, h))
    (keeps : ∀ {e e' : Editor}, e.Within limit → shift e = some e' → e'.Within limit) :
    .shown moved.1 = (Editor.go shift (editors (name key))).1 ∧
      Follows limit moved.2 (editors.set (name key)
        (Editor.go shift (editors (name key))).2) := by
  subst moves
  unfold Editor.go
  cases shifted : (editors (name key)).bind shift with
  | none => exact ⟨rfl, f.unchanged⟩
  | some e' =>
      obtain ⟨e, group, shifts⟩ := Option.bind_eq_some_iff.mp shifted
      exact ⟨rfl, f.put hk (keeps (f.within _ e group) shifts)⟩

theorem Follows.record (f : Follows limit h editors) (hk : IsKey key) (c : Snapshot) :
    .recorded (h.record key c).1 = (Editor.call limit (editors (name key)) (.record c)).1 ∧
      Follows limit (h.record key c).2 (editors.set (name key)
        (Editor.call limit (editors (name key)) (.record c)).2) := by
  rw [f.record_eq hk c]
  cases group : editors (name key) with
  | none =>
      refine ⟨rfl, f.put hk ?_⟩
      rw [← Editor.trim_first limit c]
      exact Editor.within_trim limit [] c
  | some e =>
      rw [Editor.call]
      dsimp only
      split
      · exact ⟨rfl, group ▸ f.unchanged⟩
      · exact ⟨rfl, f.put hk (Editor.within_trim limit _ c)⟩

/-- One call is answered as an editor answers it, and moves the history as it moves the editor. -/
theorem Follows.call (f : Follows limit h editors) (hk : IsKey key) (command : Command) :
    (h.call key command).1 = (Editor.call limit (editors (name key)) command).1 ∧
      Follows limit (h.call key command).2 (editors.set (name key)
        (Editor.call limit (editors (name key)) command).2) := by
  cases command with
  | record c => exact f.record hk c
  | undo => exact f.go hk (f.undo_eq hk) Editor.Within.undo
  | redo => exact f.go hk (f.redo_eq hk) Editor.Within.redo
  | current => exact ⟨congrArg Answer.shown (f.current_eq hk), f.unchanged⟩
  | clear => exact ⟨rfl, f.clear hk⟩

theorem Follows.run (f : Follows limit h editors) {calls : List (K × Command)}
    (keys : ∀ call ∈ calls, IsKey call.1) :
    (h.run calls).1 = (Editors.run limit editors calls).1 ∧
      Follows limit (h.run calls).2 (Editors.run limit editors calls).2 := by
  induction calls generalizing h editors with
  | nil => exact ⟨rfl, f⟩
  | cons call rest ih =>
      obtain ⟨key, command⟩ := call
      obtain ⟨answered, next⟩ := f.call (keys _ List.mem_cons_self) command
      obtain ⟨answers, last⟩ := ih next fun c member => keys c (List.mem_cons_of_mem _ member)
      refine ⟨?_, last⟩
      simp only [History.run, Editors.run, answered, answers]

/-- Redoing what was undone restores the whole history. -/
theorem Follows.redo_undo (f : Follows limit h editors) (hk : IsKey key) {c : Snapshot}
    (undone : (h.undo key).1 = some c) : (h.undo key).2.redo key = (h.current key, h) := by
  have moved := f.undo_eq hk
  cases shifted : (editors (name key)).bind Editor.undo with
  | none =>
      rw [shifted] at moved
      rw [moved] at undone
      exact absurd undone.symm (Option.some_ne_none c)
  | some e' =>
      obtain ⟨e, group, back⟩ := Option.bind_eq_some_iff.mp shifted
      rw [shifted] at moved
      have held := f.timeline key hk
      rw [group, Option.map_some] at held
      have next := f.put hk ((f.within _ e group).undo back)
      rw [moved, f.current_eq hk, group, next.redo_eq hk, Editors.set_self, Option.bind_some,
        Editor.undo_iff_redo.mp back]
      dsimp only
      rw [(put_of_timeline? held).2]
      rfl

/-- A key of a history mirrors an editor: the snapshots and the cursor are those of the editor, and
what leads nowhere leaves the history as it is. -/
structure Mirrors (limit : Option Nat) (h : History K) (key : K) (e : Option Editor) : Prop where
  timeline : h.timeline? key = e.map Editor.timeline
  current : h.current key = e.map Editor.present
  canUndo : h.canUndo key = true ↔ ∃ editor, e = some editor ∧ editor.past ≠ []
  canRedo : h.canRedo key = true ↔ ∃ editor, e = some editor ∧ editor.future ≠ []
  stored : ∀ t, h.timeline? key = some t → 0 ≤ t.cursor ∧ t.cursor < t.snapshots.length
  kept : ∀ t, h.timeline? key = some t → ∀ most, limit = some most → 0 < most →
    t.snapshots.length ≤ most
  same : ∀ c, (h.record key c).1 = false → (h.record key c).2 = h
  oldest : (h.undo key).1 = none → (h.undo key).2 = h
  newest : (h.redo key).1 = none → (h.redo key).2 = h
  restored : ∀ c, (h.undo key).1 = some c → (h.undo key).2.redo key = (h.current key, h)

theorem Follows.mirrors (f : Follows limit h editors) (hk : IsKey key) :
    Mirrors limit h key (editors (name key)) where
  timeline := f.timeline key hk
  current := f.current_eq hk
  canUndo := by
    rw [History.canUndo, f.timeline key hk]
    simp [Option.any_map, Timeline.canUndo_timeline, Editor.undo_isSome_iff, Option.any_eq_true]
  canRedo := by
    rw [History.canRedo, f.timeline key hk]
    simp [Option.any_map, Timeline.canRedo_timeline, Editor.redo_isSome_iff, Option.any_eq_true]
  stored := by
    intro t found
    rw [f.timeline key hk] at found
    obtain ⟨e, -, rfl⟩ := Option.map_eq_some_iff.mp found
    simp only [Editor.timeline, List.length_append, List.length_cons]
    omega
  kept := by
    rintro t found most rfl positive
    rw [f.timeline key hk] at found
    obtain ⟨e, group, rfl⟩ := Option.map_eq_some_iff.mp found
    exact f.within _ e group (by rw [Option.getD_some]; omega)
  same := by
    intro c
    rw [f.record_eq hk c]
    cases editors (name key) with
    | none => exact fun fresh => absurd fresh Bool.true_eq_false.mp
    | some e =>
        dsimp only
        split
        · exact fun _ => rfl
        · exact fun fresh => absurd fresh Bool.true_eq_false.mp
  oldest := by
    rw [f.undo_eq hk]
    cases (editors (name key)).bind Editor.undo with
    | none => exact fun _ => rfl
    | some e => exact fun none => absurd none (Option.some_ne_none _)
  newest := by
    rw [f.redo_eq hk]
    cases (editors (name key)).bind Editor.redo with
    | none => exact fun _ => rfl
    | some e => exact fun none => absurd none (Option.some_ne_none _)
  restored := fun _ undone => f.redo_undo hk undone

end Follows

/-- Whatever is called, a history answers like editors with two stacks, one for each group, and
mirrors them at every key. -/
theorem run_eq_editors (limit : Option Nat) (calls : List (K × Command))
    (keys : ∀ call ∈ calls, IsKey call.1) :
    ((⟨limit.map Int.ofNat, []⟩ : History K).run calls).1 =
        (Editors.run limit (fun _ => none) calls).1 ∧
      ∀ key : K, IsKey key → Mirrors limit ((⟨limit.map Int.ofNat, []⟩ : History K).run calls).2 key
        ((Editors.run limit (fun _ => none) calls).2 (name key)) := by
  obtain ⟨answers, follows⟩ := (@follows_nothing K _ _ limit).run keys
  exact ⟨answers, fun key hk => follows.mirrors hk⟩

def single (property : String) : Snapshot := [{ property := .text property }]

/-- An integer, a number and a boolean that name one group. -/
def oneGroup : List (Value × Command) :=
  [(.int 1, .record (single "Name")), (.float (.finite false 2 (-1)), .record (single "Status")),
    (.bool true, .record (single "Files")), (.int 1, .record (single "Files")), (.int 1, .undo),
    (.bool true, .undo), (.bool true, .redo)]

/-- The first snapshot is beyond the limit when it could be undone to, and what is recorded twice
is kept once. -/
theorem run_oneGroup : (∀ call ∈ oneGroup, IsKey call.1) ∧
    ((⟨some 2, []⟩ : History Value).run oneGroup).1 = [.recorded true, .recorded true,
      .recorded true, .recorded false, .shown (some (single "Status")), .shown none,
      .shown (some (single "Files"))] ∧
    (Editors.run (some 2) (fun _ => none) oneGroup).1 =
      ((⟨some 2, []⟩ : History Value).run oneGroup).1 := by
  have keys : ∀ call ∈ oneGroup, IsKey call.1 := by
    simp only [oneGroup, List.forall_mem_cons]
    exact ⟨rfl, rfl, rfl, rfl, rfl, rfl, rfl, fun _ none => absurd none List.not_mem_nil⟩
  exact ⟨keys, rfl, (run_eq_editors (some 2) oneGroup keys).1.symm⟩

end History
end CourseAudit
