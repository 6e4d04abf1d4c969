import CourseAudit.Proofs.Encoding
import CourseAudit.Proofs.History

/-!
What requests do to the history of a service. A request is at most one call for one group, with
conditions that have been read from a payload, so whatever holds of such conditions holds of all
snapshots that a service ever keeps.
-/
namespace CourseAudit

/-- Every condition of every snapshot has a property. -/
def Timeline.Holds (P : Condition → Prop) (t : Timeline) : Prop :=
  ∀ snapshot ∈ t.snapshots, ∀ c ∈ snapshot, P c

section Timelines

variable {P : Condition → Prop} {t : Timeline} {snapshot : Snapshot}

theorem Timeline.mem_of_mem_dropExcess {limit : Option Int} {snapshots : List Snapshot}
    (h : snapshot ∈ dropExcess limit snapshots) : snapshot ∈ snapshots := by
  unfold dropExcess at h
  split at h
  · exact h
  · split at h
    · exact h
    · exact List.mem_of_mem_drop h

theorem Timeline.Holds.record (h : t.Holds P) (new : ∀ c ∈ snapshot, P c) (limit : Option Int) :
    (t.record limit snapshot).2.Holds P := by
  unfold Timeline.record
  split
  · exact h
  · intro kept member
    rcases List.mem_append.mp (mem_of_mem_dropExcess member) with earlier | last
    · exact h kept (List.mem_of_mem_take earlier)
    · rw [List.mem_singleton.mp last]
      exact new

theorem Timeline.Holds.current (h : t.Holds P) (shown : t.current = some snapshot) :
    ∀ c ∈ snapshot, P c := by
  unfold Timeline.current at shown
  split at shown
  · exact h snapshot (List.mem_of_getElem? shown)
  · cases shown

end Timelines

namespace History

variable {K : Type} [GroupKey K] {P : Condition → Prop} {h : History K} {key : K}

/-- Every condition of every snapshot of every group has a property. -/
def Holds (P : Condition → Prop) (h : History K) : Prop :=
  ∀ entry ∈ h.timelines, entry.2.Holds P

/-- Every condition that a call records has a property. -/
def Command.Holds (P : Condition → Prop) : Command → Prop
  | .record snapshot => ∀ c ∈ snapshot, P c
  | _ => True

theorem Holds.timeline? (holds : h.Holds P) {t : Timeline} (found : h.timeline? key = some t) :
    t.Holds P := by
  obtain ⟨entry, there, rfl⟩ := Option.map_eq_some_iff.mp found
  exact holds entry (List.mem_of_find?_eq_some there)

theorem Holds.current (holds : h.Holds P) {snapshot : Snapshot}
    (shown : h.current key = some snapshot) : ∀ c ∈ snapshot, P c := by
  obtain ⟨t, found, current⟩ := Option.bind_eq_some_iff.mp shown
  exact (holds.timeline? found).current current

theorem Holds.put (holds : h.Holds P) {t : Timeline} (new : t.Holds P) : (h.put key t).Holds P := by
  rcases h with ⟨limit, timelines⟩
  change ∀ entry ∈ putTimeline key t timelines, entry.2.Holds P
  induction timelines with
  | nil => simpa [putTimeline] using new
  | cons entry rest ih =>
      have first := holds entry List.mem_cons_self
      have later : ∀ e ∈ rest, e.2.Holds P := fun e member =>
        holds e (List.mem_cons_of_mem _ member)
      unfold putTimeline
      split
      · exact List.forall_mem_cons.mpr ⟨new, later⟩
      · exact List.forall_mem_cons.mpr ⟨first, ih later⟩

theorem Holds.record (holds : h.Holds P) {snapshot : Snapshot} (new : ∀ c ∈ snapshot, P c) :
    (h.record key snapshot).2.Holds P := by
  refine holds.put (Timeline.Holds.record ?_ new h.limit)
  cases found : h.timeline? key with
  | none => exact fun _ member => absurd member List.not_mem_nil
  | some t => exact holds.timeline? found

theorem Holds.move (holds : h.Holds P) (can : Timeline → Bool) (step : Int) :
    (h.move can step key).2.Holds P := by
  unfold History.move
  split
  · exact holds
  · next t found =>
      split
      · exact holds.put fun snapshot member => holds.timeline? found snapshot member
      · exact holds

/-- A call keeps what holds of all conditions, as long as it holds of what is recorded. -/
theorem Holds.call (holds : h.Holds P) {command : Command} (new : command.Holds P) :
    (h.call key command).2.Holds P := by
  cases command with
  | record snapshot => exact holds.record new
  | undo => exact holds.move _ _
  | redo => exact holds.move _ _
  | current => exact holds
  | clear => exact fun entry member => holds entry (List.mem_of_mem_filter member)

end History

namespace Service

variable {outside : Surroundings} {s : Service} {requestId : String} {r : Request}

/-- The service that the handling of a request leaves behind. -/
def leaves : Handled → Service
  | .ok (_, after) => after
  | .error after => after

theorem history_step : (s.step outside r).2.history =
    (leaves (s.dispatch outside ((r.header? idHeader).getD outside.freshId) r)).history := by
  cases handled : s.dispatch outside ((r.header? idHeader).getD outside.freshId) r with
  | error after =>
      simp only [step, handled]
      rfl
  | ok result =>
      simp only [step, handled]
      split
      · rfl
      · rfl

theorem leaves_withContent (fields : Payload.Fields) (handle : Value → Handled) :
    leaves (s.withContent r fields handle) = s ∨
      ∃ v, r.read fields = .ok v ∧ leaves (s.withContent r fields handle) = leaves (handle v) := by
  unfold withContent
  cases reading : r.read fields with
  | ok v => exact .inr ⟨v, rfl, rfl⟩
  | error reply => exact .inl rfl

theorem history_health : (leaves (s.health outside)).history = s.history := by
  unfold health
  split
  · rfl
  · rfl

theorem history_dynamicValues :
    (leaves (s.dynamicValues outside requestId r)).history = s.history := by
  unfold dynamicValues
  dsimp only
  split
  · rfl
  · split
    · rfl
    · split
      · rfl
      · rfl

theorem history_validate (t : PlanTask) : (leaves (s.validate t)).history = s.history := by
  unfold validate
  split
  · rfl
  · dsimp only
    split
    · rfl
    · rfl

theorem history_evaluate (v : Value) : (leaves (s.evaluate outside v)).history = s.history := by
  unfold evaluate
  dsimp only
  split
  · rfl
  · rfl

theorem history_evaluateContext (v : Value) :
    (leaves (s.evaluateContext outside requestId v)).history = s.history := by
  unfold evaluateContext
  dsimp only
  split
  · rfl
  · split
    · rfl
    · rfl

theorem history_historyMoved (key : String × String)
    (moved : Option Snapshot × History (String × String)) (recorded : Value) :
    (leaves (s.historyMoved key moved recorded)).history = moved.2 := by
  unfold historyMoved
  dsimp only
  split
  · rfl
  · rfl

/-- The conditions in the content of a request to record are read from payloads. -/
theorem held_of_recordFields {v : Value} (h : r.read Payload.recordFields = .ok v) :
    ∀ c ∈ (v.part "conditions").items.map Condition.ofPayload, c.Held := by
  have fits := Request.read_fits Payload.recordFields_defaultsFit h
  have short := Request.holdsLong_read Payload.recordFields_defaultsShort h
  intro c member
  obtain ⟨item, inside, rfl⟩ := List.mem_map.mp member
  exact Condition.held_ofPayload
    (Payload.Form.Fits.items (.inl (fits.part "conditions" rfl)) item inside)
    (Value.holdsLong_items (Value.holdsLong_part short _) item inside)

/-- A request about the history of a group is one call for that group, or none at all. -/
theorem history_runHistory (key : String × String) (action : HistoryAction) :
    ∃ command : History.Command, command.Holds Condition.Held ∧
      (leaves (s.runHistory r key action)).history = (s.history.call key command).2 := by
  cases action with
  | current => exact ⟨.current, trivial, history_historyMoved ..⟩
  | undo => exact ⟨.undo, trivial, history_historyMoved ..⟩
  | redo => exact ⟨.redo, trivial, history_historyMoved ..⟩
  | clear => exact ⟨.clear, trivial, history_historyMoved key (none, s.history.clear key) .null⟩
  | record =>
      rw [runHistory]
      rcases leaves_withContent Payload.recordFields (s.recordHistory key) with
        unread | ⟨v, read, handled⟩
      · exact ⟨.current, trivial, congrArg history unread⟩
      · rw [handled, recordHistory]
        dsimp only
        split
        · refine ⟨.record _, held_of_recordFields read, ?_⟩
          rw [history_historyMoved]
          rfl
        · exact ⟨.current, trivial, rfl⟩

/-- Only requests about the history of a group change the history, and only by a call for it. -/
theorem step_history : (s.step outside r).2.history = s.history ∨
    ∃ action taskId groupId, ∃ command : History.Command,
      Destination.of r.method r.path = .found (.history action taskId groupId) ∧
        command.Holds Condition.Held ∧
        (s.step outside r).2.history = (s.history.call (taskId, groupId) command).2 := by
  rw [history_step, dispatch]
  cases goes : Destination.of r.method r.path with
  | wrongMethod => exact .inl rfl
  | elsewhere => exact .inl rfl
  | nowhere => exact .inl rfl
  | found route =>
      cases route with
      | history action taskId groupId =>
          obtain ⟨command, held, called⟩ := @history_runHistory s r (taskId, groupId) action
          exact .inr ⟨action, taskId, groupId, command, rfl, held, called⟩
      | root | metrics => exact .inl rfl
      | manual page => exact .inl rfl
      | health => exact .inl history_health
      | catalog => exact .inl rfl
      | dynamicValues => exact .inl history_dynamicValues
      | validate =>
          rcases leaves_withContent _ _ with unread | ⟨v, -, handled⟩
          · exact .inl (congrArg history unread)
          · exact .inl ((congrArg history handled).trans (history_validate _))
      | evaluate =>
          rcases leaves_withContent _ _ with unread | ⟨v, -, handled⟩
          · exact .inl (congrArg history unread)
          · exact .inl ((congrArg history handled).trans (history_evaluate _))
      | context =>
          rcases leaves_withContent _ _ with unread | ⟨v, -, handled⟩
          · exact .inl (congrArg history unread)
          · exact .inl ((congrArg history handled).trans (history_evaluateContext _))

/-- The services that a configuration and a catalog lead to, whatever is requested and whatever
surrounds the requests. -/
inductive Reachable (config : Config) (catalog : Catalog) : Service → Prop
  | start : Reachable config catalog (start config catalog)
  | step {s : Service} (h : Reachable config catalog s) (outside : Surroundings) (r : Request) :
      Reachable config catalog (s.step outside r).2

/-- A service keeps nothing but conditions that have been read from payloads. -/
theorem Reachable.held {config : Config} {catalog : Catalog} (h : Reachable config catalog s) :
    s.history.Holds Condition.Held := by
  induction h with
  | start => exact fun _ member => absurd member List.not_mem_nil
  | step _ outside r ih =>
      rcases step_history with unchanged | ⟨_, _, _, command, -, held, called⟩
      · rw [unchanged]
        exact ih
      · rw [called]
        exact ih.call held

end Service
end CourseAudit
