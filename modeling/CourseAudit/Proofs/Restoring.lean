import CourseAudit.Proofs.Steps

/-!
Restoring what is shown. The conditions that a response shows of a group are its current snapshot,
and sending them in again records nothing and leaves the history as it is.
-/
namespace CourseAudit

namespace History

variable {K : Type} [GroupKey K] {h : History K} {key : K}

theorem timeline?_put_of_timeline? {t : Timeline} (found : h.timeline? key = some t)
    (t' : Timeline) : (h.put key t').timeline? key = some t' := by
  rcases h with ⟨limit, timelines⟩
  change timeline? ⟨limit, putTimeline key t' timelines⟩ key = some t'
  induction timelines with
  | nil => cases found
  | cons entry rest ih =>
      rw [timeline?_cons] at found
      unfold putTimeline
      by_cases same : GroupKey.same entry.1 key = true
      · rw [if_pos same, timeline?_cons, if_pos same]
      · rw [if_neg same] at found
        rw [if_neg same, timeline?_cons, if_neg same]
        exact ih found

/-- The snapshot that a move gives is the current one after it. -/
theorem current_move {can : Timeline → Bool} {step : Int} {snapshot : Snapshot}
    (moved : (h.move can step key).1 = some snapshot) :
    (h.move can step key).2.current key = some snapshot := by
  unfold move at moved ⊢
  split at moved
  · cases moved
  · next t found =>
      split at moved
      · next able =>
          simp only [if_pos able, current, timeline?_put_of_timeline? found, Option.bind_some]
          exact moved
      · cases moved

/-- Recording what is current already changes nothing. -/
theorem record_current {snapshot : Snapshot} (shown : h.current key = some snapshot)
    (same : sameAll Condition.same snapshot snapshot = true) :
    h.record key snapshot = (false, h) := by
  obtain ⟨t, found, current⟩ := Option.bind_eq_some_iff.mp shown
  have kept : t.record h.limit snapshot = (false, t) := by
    rw [Timeline.record, current, Option.any_some, if_pos same]
  rw [record, found, Option.getD_some, kept]
  exact congrArg (false, ·) (put_of_timeline? found).1

end History

/-- A request carries a value as its content, or in a text that is read as the value. -/
def Request.Carries (r : Request) (v : Value) : Prop :=
  r.hasJson = true ∧ (r.content = .value v ∨ ∃ s, r.content = .text s ∧ s.isEmpty = false ∧
    (Text.decoded? s).map (Json.read nestingLimit) = some (.ok v))

theorem Request.Carries.value {r : Request} {v : Value} (h : r.Carries v)
    (levels : v.levels ≤ nestingLimit + 1) (short : v.holdsLong = false) : r.value = .ok v := by
  have free : v.obstacle? (nestingLimit + 1) = none :=
    (v.obstacle?_eq_none_iff _).mpr ⟨levels, short⟩
  obtain ⟨typed, given | ⟨s, given, filled, read⟩⟩ := h
  · simp only [Request.value, given, typed, free, Option.isSome_none, Bool.not_true,
      Bool.false_eq_true, if_false]
  · simp only [Request.value, given, filled, typed, read, Bool.not_true, Bool.false_eq_true,
      if_false]

namespace Service

variable {outside : Surroundings} {s after : Service} {r : Request} {reply : Reply}
  {key : String × String} {snapshot : Snapshot}

section Shown

variable {body : Value} (answer : reply.body = .json body)
  (shown : (body.part "conditions").isNull = false)

include answer shown

theorem shown_of_historyMoved {moved : Option Snapshot × History (String × String)}
    {recorded : Value} (h : s.historyMoved key moved recorded = .ok (reply, after)) :
    ∃ snapshot, moved.1 = some snapshot ∧ withinLevels answeredLevels snapshot = true ∧
      after.history = moved.2 ∧ reply = ok (after.historyValue key (some snapshot) recorded) := by
  unfold historyMoved at h
  dsimp only at h
  split at h
  · next within =>
      cases h
      obtain ⟨conditions, moved⟩ := moved
      cases conditions with
      | none =>
          cases answer
          cases shown
      | some snapshot => exact ⟨snapshot, rfl, within, rfl, rfl⟩
  · cases h

/-- What a request about the history of a group is shown is the current snapshot of the group. -/
theorem shown_of_runHistory {action : HistoryAction}
    (h : s.runHistory r key action = .ok (reply, after)) :
    ∃ snapshot recorded, after.history.current key = some snapshot ∧
      withinLevels answeredLevels snapshot = true ∧
      reply = ok (after.historyValue key (some snapshot) recorded) := by
  cases action with
  | current =>
      obtain ⟨snapshot, current, within, left, replied⟩ := shown_of_historyMoved answer shown h
      exact ⟨snapshot, _, by rw [left]; exact current, within, replied⟩
  | undo =>
      obtain ⟨snapshot, moved, within, left, replied⟩ := shown_of_historyMoved answer shown h
      exact ⟨snapshot, _, by rw [left]; exact History.current_move moved, within, replied⟩
  | redo =>
      obtain ⟨snapshot, moved, within, left, replied⟩ := shown_of_historyMoved answer shown h
      exact ⟨snapshot, _, by rw [left]; exact History.current_move moved, within, replied⟩
  | clear =>
      have cleared : s.historyMoved key (none, s.history.clear key) .null = .ok (reply, after) := h
      obtain ⟨snapshot, none, -⟩ := shown_of_historyMoved answer shown cleared
      cases none
  | record =>
      rw [runHistory, withContent] at h
      cases read : r.read Payload.recordFields with
      | error early =>
          rw [read] at h
          cases h
          obtain ⟨told, only⟩ := Request.body_of_read_error read
          cases answer.symm.trans only
          cases shown
      | ok v =>
          rw [read] at h
          dsimp only at h
          rw [recordHistory] at h
          dsimp only at h
          split at h
          · obtain ⟨snapshot, current, within, left, replied⟩ :=
              shown_of_historyMoved answer shown h
            exact ⟨snapshot, _, by rw [left]; exact current, within, replied⟩
          · cases h

end Shown

/-- Whether the state of a group can be written does not depend on what it says of a recording. -/
theorem isWritable_historyValue {recorded : Value} (b : Bool)
    (h : (ok (s.historyValue key (some snapshot) recorded)).isWritable = true) :
    (ok (s.historyValue key (some snapshot) (.bool b))).isWritable = true := by
  simp only [Reply.isWritable, ok, historyValue, Value.finite, Value.finiteEntries,
    Value.isWritable, Value.entriesWritable, Value.areWritable, Bool.and_eq_true, and_true,
    true_and] at h ⊢
  obtain ⟨task, group, conditions, undo, redo, flag, -⟩ := h
  exact ⟨task, group, conditions, undo, redo, flag⟩

/-- Conditions that can be answered lie deep enough for nothing but the values in them. -/
theorem levels_of_withinLevels {limit : Nat} (held : ∀ c ∈ snapshot, c.Held)
    (within : withinLevels limit snapshot = true) :
    (Value.dict [("conditions", .list (snapshot.map Condition.payload))]).levels ≤ limit + 5 := by
  have listed : Value.levelsOfItems (snapshot.map Condition.payload) ≤ limit + 3 := by
    refine Value.levelsOfItems_le fun item member => ?_
    obtain ⟨c, inside, rfl⟩ := List.mem_map.mp member
    have values := List.all_eq_true.mp within c inside
    rw [Bool.and_eq_true, decide_eq_true_iff] at values
    refine (held c inside).levels_payload values.1 fun sub there => ?_
    exact of_decide_eq_true (List.all_eq_true.mp values.2 sub there)
  exact Nat.succ_le_succ (Nat.max_le.mpr ⟨Nat.succ_le_succ listed, Nat.zero_le _⟩)

theorem withinLevels_mono {limit most : Nat} (le : limit ≤ most)
    (within : withinLevels limit snapshot = true) : withinLevels most snapshot = true := by
  refine List.all_eq_true.mpr fun c inside => ?_
  have values := List.all_eq_true.mp within c inside
  rw [Bool.and_eq_true, decide_eq_true_iff] at values ⊢
  refine ⟨values.1.trans le, List.all_eq_true.mpr fun sub there => decide_eq_true ?_⟩
  exact (of_decide_eq_true (List.all_eq_true.mp values.2 sub there)).trans le

/-- The conditions of a request that carries the payloads of a snapshot are the snapshot. -/
theorem read_of_carries (held : ∀ c ∈ snapshot, c.Held)
    (within : withinLevels answeredLevels snapshot = true)
    (carries : r.Carries (.dict [("conditions", .list (snapshot.map Condition.payload))])) :
    r.read Payload.recordFields =
        .ok (.dict [("conditions", .list (snapshot.map Condition.payload))]) ∧
      (snapshot.map Condition.payload).map Condition.ofPayload = snapshot := by
  have fits : (Payload.Form.record Payload.recordFields).Fits
      (.dict [("conditions", .list (snapshot.map Condition.payload))]) := by
    refine ⟨_, rfl, _, _, rfl, ⟨_, rfl, fun item member => ?_⟩, rfl⟩
    obtain ⟨c, inside, rfl⟩ := List.mem_map.mp member
    exact (held c inside).fits_payload
  have short : (Value.dict [("conditions", .list (snapshot.map Condition.payload))]).holdsLong =
      false := by
    rw [Value.holdsLong, Value.entriesHoldLong, Value.entriesHoldLong, Bool.or_false]
    refine Value.itemsHoldLong_eq_false_iff.mpr fun item member => ?_
    obtain ⟨c, inside, rfl⟩ := List.mem_map.mp member
    exact (held c inside).short
  have value := carries.value ((levels_of_withinLevels held within).trans (by decide)) short
  constructor
  · rw [Request.read, value, ok_bind,
      Payload.Form.read_of_fits _ Payload.recordFields_distinct fits]
    rfl
  · rw [List.map_map]
    exact (List.map_congr_left fun c inside => (held c inside).ofPayload_payload).trans
      (List.map_id snapshot)

/-- Recording what is current already is answered by the state of the group. -/
theorem runHistory_record_current (shown : s.history.current key = some snapshot)
    (held : ∀ c ∈ snapshot, c.Held) (json : ∀ c ∈ snapshot, c.IsJson)
    (within : withinLevels answeredLevels snapshot = true)
    (carries : r.Carries (.dict [("conditions", .list (snapshot.map Condition.payload))])) :
    s.runHistory r key .record =
      .ok (ok (s.historyValue key (some snapshot) (.bool false)), s) := by
  obtain ⟨read, restored⟩ := read_of_carries held within carries
  have same : sameAll Condition.same snapshot snapshot = true :=
    sameAll_self fun c inside => (held c inside).same_self (json c inside)
  have conditions : ((Value.dict [("conditions", .list (snapshot.map Condition.payload))]).part
      "conditions").items.map Condition.ofPayload = snapshot := restored
  have recordable := withinLevels_mono (by decide : answeredLevels ≤ recordedLevels) within
  rw [runHistory, withContent, read]
  dsimp only
  rw [recordHistory, conditions]
  simp only [recordable, if_true, History.record_current shown same, Bool.false_eq_true, if_false]
  rw [historyMoved, shown]
  simp only [Option.all_some, within, if_true]
  rfl

/-- A response of a request to record that has changed nothing: it shows the state of the group as
another response did, and says that nothing has been recorded. -/
structure Unchanged (body : Value) (s : Service) (result : Response × Service) : Prop where
  status : result.1.status = 200
  answer : ∃ restored, result.1.body = .json restored ∧
    restored.part "recorded" = .bool false ∧
    ∀ name ∈ ["taskId", "groupId", "conditions", "canUndo", "canRedo"],
      restored.part name = body.part name
  history : result.2.history = s.history

/-- A response that shows conditions is a reply that could be written. -/
theorem step_shown {body : Value} (answer : (s.step outside r).1.body = .json body)
    (shown : (body.part "conditions").isNull = false) :
    ∃ requestId reply after, s.dispatch outside requestId r = .ok (reply, after) ∧
      reply.isWritable = true ∧ reply.body = .json body ∧
      (s.step outside r).2.history = after.history := by
  cases handled : s.dispatch outside ((r.header? idHeader).getD outside.freshId) r with
  | error after =>
      simp only [step, handled] at answer
      cases answer
      cases shown
  | ok result =>
      obtain ⟨reply, after⟩ := result
      by_cases writable : reply.isWritable = true
      · simp only [step, handled, if_pos writable] at answer ⊢
        exact ⟨_, reply, after, handled, writable, answer, rfl⟩
      · simp only [step, handled, if_neg writable] at answer
        cases answer
        cases shown

/-- A request to record that is handled without a change is answered so. -/
theorem step_recorded {outside : Surroundings} {s : Service} {r : Request} {key : String × String}
    (goes : Destination.of r.method r.path = .found (.history .record key.1 key.2))
    (handled : s.runHistory r key .record = .ok (reply, s)) (writable : reply.isWritable = true) :
    (s.step outside r).1.status = reply.status ∧ (s.step outside r).1.body = reply.body ∧
      (s.step outside r).2.history = s.history := by
  have dispatched (requestId : String) : s.dispatch outside requestId r = .ok (reply, s) := by
    rw [dispatch, goes]
    exact handled
  simp only [step, dispatched, if_pos writable, and_self]

theorem finiteItems_payloads (held : ∀ c ∈ snapshot, c.Held) (json : ∀ c ∈ snapshot, c.IsJson) :
    Value.finiteItems (snapshot.map Condition.payload) = snapshot.map Condition.payload := by
  rw [Value.finiteItems_eq_map, List.map_map]
  exact List.map_congr_left fun c inside => (held c inside).finite_payload (json c inside)

/-- Every condition that a service keeps is read from its own payload, and sending in again the
conditions that a response about a group shows changes nothing. -/
theorem Reachable.restoring {config : Config} {catalog : Catalog} {s : Service}
    (reached : Reachable config catalog s) :
    s.history.Holds (fun c => Condition.read c.payload = .ok c) ∧
      ∀ (outside : Surroundings) (r : Request) (action : HistoryAction) (taskId groupId : String)
        (body : Value),
        Destination.of r.method r.path = .found (.history action taskId groupId) →
        (s.step outside r).1.body = .json body → (body.part "conditions").isNull = false →
        (∀ snapshot, (s.step outside r).2.history.current (taskId, groupId) = some snapshot →
          ∀ c ∈ snapshot, c.IsJson) →
        ∀ (later : Surroundings) (again : Request),
          Destination.of again.method again.path = .found (.history .record taskId groupId) →
          again.Carries (.dict [("conditions", body.part "conditions")]) →
          Unchanged body (s.step outside r).2 ((s.step outside r).2.step later again) := by
  refine ⟨fun entry there snapshot kept c inside =>
    (reached.held entry there snapshot kept c inside).read_payload, ?_⟩
  intro outside r action taskId groupId body goes answer shown json later again posts carries
  obtain ⟨requestId, reply, after, dispatched, writable, replied, left⟩ := step_shown answer shown
  rw [dispatch, goes] at dispatched
  have handled : s.runHistory r (taskId, groupId) action = .ok (reply, after) := dispatched
  obtain ⟨snapshot, recorded, current, within, rfl⟩ := shown_of_runHistory replied shown handled
  -- Only the history of the service after the handler counts; the step adds to its metrics.
  have next := reached.step outside r
  generalize (s.step outside r).2 = restored at *
  rw [← left] at current
  have held := next.held.current current
  have values := json snapshot current
  have state : after.historyValue (taskId, groupId) (some snapshot) recorded =
      restored.historyValue (taskId, groupId) (some snapshot) recorded := by
    simp only [historyValue, left]
  rw [state] at writable replied
  cases replied
  -- Nothing becomes null on the way out, so what is sent in again are the payloads themselves.
  have conditions : (restored.historyValue (taskId, groupId) (some snapshot) recorded).finite.part
      "conditions" = .list (snapshot.map Condition.payload) :=
    congrArg Value.list (finiteItems_payloads held values)
  rw [conditions] at carries
  have again := runHistory_record_current current held values within carries
  obtain ⟨status, body, history⟩ :=
    step_recorded posts again (isWritable_historyValue false writable)
  refine ⟨status, ⟨_, body, rfl, fun name member => ?_⟩, history⟩
  simp only [List.mem_cons, List.not_mem_nil, or_false] at member
  rcases member with rfl | rfl | rfl | rfl | rfl <;> rfl

/-- A request to record conditions for a group. -/
def recording (conditions : Value) : Request where
  method := "POST"
  path := "/compliance/history/plan/groups/1"
  query := []
  headers := [("Content-Type", "application/json")]
  content := .value (.dict [("conditions", conditions)])

/-- A condition with a spelling of its group type and a nested value, and one of no group type. -/
def twoConditions : Value := .list [
  .dict [("id", .int 7), ("group_type", .text "LMS_condition"), ("source", .text "Assignments"),
    ("property", .text "Total Percent"), ("operator", .text "equals"),
    ("value", .dict [("of", .list [.int 4, .float (.ofRatio false 5 2)])]),
    ("subConditions", .list [.dict [("id", .text "a"), ("property", .text "Name")]])],
  .dict [("groupType", .text "Other")]]

/-- The service after the first request that it answers. -/
def edited : Response × Service :=
  (start ⟨[]⟩ Catalog.standard).step ⟨"1", .int 0, "", ⟨2025, 12, 1, by decide⟩⟩
    (recording twoConditions)

theorem restoring_twoConditions : ∃ body, edited.1.body = .json body ∧
    (body.part "conditions").isNull = false ∧
    Unchanged body edited.2 (edited.2.step ⟨"2", .int 1, "", ⟨2025, 12, 1, by decide⟩⟩
      (recording (body.part "conditions"))) := by
  have goes : Destination.of "POST" "/compliance/history/plan/groups/1" =
      .found (.history .record "plan" "1") := by decide +kernel
  have typed : (recording twoConditions).hasJson = true := by decide +kernel
  have json : (edited.2.history.current ("plan", "1")).all (List.all · fun c =>
      c.value.isJson && c.subConditions.records.all fun sub => sub.value.isJson) = true := by
    decide +kernel
  have shown : (match edited.1.body with
      | .json body => (body.part "conditions").isNull
      | _ => true) = false := by
    decide +kernel
  cases answer : edited.1.body with
  | json body =>
      rw [answer] at shown
      have started : Reachable ⟨[]⟩ Catalog.standard (start ⟨[]⟩ Catalog.standard) := .start
      refine ⟨body, rfl, shown, started.restoring.2 _ _ _ _ _ body goes answer shown ?_ _ _ goes
        ⟨typed, .inl rfl⟩⟩
      intro snapshot current c inside
      have edit : edited.2.history.current ("plan", "1") = some snapshot := current
      rw [edit, Option.all_some, List.all_eq_true] at json
      have own := json c inside
      rw [Bool.and_eq_true, List.all_eq_true] at own
      exact own
  | text t =>
      rw [answer] at shown
      cases shown
  | metrics m =>
      rw [answer] at shown
      cases shown
  | manual page =>
      rw [answer] at shown
      cases shown

end Service
end CourseAudit
