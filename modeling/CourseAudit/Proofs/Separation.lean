import CourseAudit.Proofs.Session
import CourseAudit.Proofs.Validation

/-!
Groups are apart from one another. What is answered about the history of a group depends on nothing
but the requests about it, in whatever order others come between them.
-/
namespace CourseAudit

open GroupNames

namespace History

variable {K : Type} [GroupKey K] {h h' : History K} {key other : K}

/-- Two histories that a group cannot tell apart. -/
structure AgreeAt (key : K) (h h' : History K) : Prop where
  limit : h.limit = h'.limit
  timeline : h.timeline? key = h'.timeline? key

theorem AgreeAt.refl (key : K) (h : History K) : AgreeAt key h h := ⟨rfl, rfl⟩

theorem AgreeAt.trans {h'' : History K} (first : AgreeAt key h h') (second : AgreeAt key h' h'') :
    AgreeAt key h h'' :=
  ⟨first.limit.trans second.limit, first.timeline.trans second.timeline⟩

theorem AgreeAt.current (agree : AgreeAt key h h') : h.current key = h'.current key := by
  rw [History.current, History.current, agree.timeline]

theorem AgreeAt.canUndo (agree : AgreeAt key h h') : h.canUndo key = h'.canUndo key := by
  rw [History.canUndo, History.canUndo, agree.timeline]

theorem AgreeAt.canRedo (agree : AgreeAt key h h') : h.canRedo key = h'.canRedo key := by
  rw [History.canRedo, History.canRedo, agree.timeline]

variable [GroupNames K]

/-- What is put at a group is found there. -/
theorem Keyed.timeline?_put_self (keyed : h.Keyed) (hk : IsKey key) (t : Timeline) :
    (h.put key t).timeline? key = some t := by
  rw [timeline?_put keyed hk hk, if_pos rfl]

theorem AgreeAt.put (agree : AgreeAt key h h') (keyed : h.Keyed) (keyed' : h'.Keyed)
    (hk : IsKey key) (t : Timeline) : AgreeAt key (h.put key t) (h'.put key t) where
  limit := agree.limit
  timeline := by rw [keyed.timeline?_put_self hk, keyed'.timeline?_put_self hk]

theorem AgreeAt.move (agree : AgreeAt key h h') (keyed : h.Keyed) (keyed' : h'.Keyed)
    (hk : IsKey key) (can : Timeline → Bool) (step : Int) :
    (h.move can step key).1 = (h'.move can step key).1 ∧
      AgreeAt key (h.move can step key).2 (h'.move can step key).2 := by
  unfold History.move
  rw [← agree.timeline]
  cases h.timeline? key with
  | none => exact ⟨rfl, agree⟩
  | some t =>
      dsimp only
      split
      · exact ⟨rfl, agree.put keyed keyed' hk _⟩
      · exact ⟨rfl, agree⟩

theorem AgreeAt.record (agree : AgreeAt key h h') (keyed : h.Keyed) (keyed' : h'.Keyed)
    (hk : IsKey key) (snapshot : Snapshot) :
    (h.record key snapshot).1 = (h'.record key snapshot).1 ∧
      AgreeAt key (h.record key snapshot).2 (h'.record key snapshot).2 := by
  unfold History.record
  rw [← agree.timeline, ← agree.limit]
  exact ⟨rfl, agree.put keyed keyed' hk _⟩

theorem AgreeAt.clear (agree : AgreeAt key h h') (keyed : h.Keyed) (keyed' : h'.Keyed)
    (hk : IsKey key) : AgreeAt key (h.clear key) (h'.clear key) where
  limit := agree.limit
  timeline := by
    rw [timeline?_clear keyed hk hk, timeline?_clear keyed' hk hk, if_pos rfl, if_pos rfl]

/-- A call for another group is none that a group can tell. -/
theorem Keyed.agreeAt_call (keyed : h.Keyed) (hk : IsKey key) (ho : IsKey other)
    (apart : name key ≠ name other) (command : Command) :
    AgreeAt other (h.call key command).2 h := by
  have put (t : Timeline) : AgreeAt other (h.put key t) h :=
    ⟨rfl, by rw [timeline?_put keyed hk ho, if_neg apart]⟩
  have moved (can : Timeline → Bool) (step : Int) : AgreeAt other (h.move can step key).2 h := by
    unfold History.move
    split
    · exact .refl other h
    · split
      · exact put _
      · exact .refl other h
  cases command with
  | record snapshot => exact put _
  | undo => exact moved _ _
  | redo => exact moved _ _
  | current => exact .refl other h
  | clear => exact ⟨rfl, by rw [History.call, timeline?_clear keyed hk ho, if_neg apart]⟩

end History

/-- Pairs of texts are keys as they stand. -/
theorem History.keyed_pairs (h : History (String × String)) : h.Keyed := fun _ _ => trivial

/-- Whether a request is about the history of a group. -/
def Request.isAbout (key : String × String) (r : Request) : Bool :=
  match Destination.of r.method r.path with
  | .found (.history _ taskId groupId) => (taskId, groupId) == key
  | _ => false

namespace Service

open History (AgreeAt)

variable {outside : Surroundings} {s s' : Service} {r : Request} {key : String × String}

/-- Two handlings with one answer, after which a group cannot tell the histories apart. -/
inductive HandledAlike (key : String × String) : Handled → Handled → Prop
  | answered {reply : Reply} {after after' : Service}
      (agree : AgreeAt key after.history after'.history) :
      HandledAlike key (.ok (reply, after)) (.ok (reply, after'))
  | failed {after after' : Service} (agree : AgreeAt key after.history after'.history) :
      HandledAlike key (.error after) (.error after')

theorem handledAlike_moved {moved moved' : Option Snapshot × History (String × String)}
    (same : moved.1 = moved'.1) (agree : AgreeAt key moved.2 moved'.2) (recorded : Value) :
    HandledAlike key (s.historyMoved key moved recorded) (s'.historyMoved key moved' recorded) := by
  unfold historyMoved
  dsimp only
  rw [same]
  split
  · have shown : { s with history := moved.2 }.historyValue key moved'.1 recorded =
        { s' with history := moved'.2 }.historyValue key moved'.1 recorded := by
      simp only [historyValue, agree.canUndo, agree.canRedo]
    rw [shown]
    exact .answered agree
  · exact .failed agree

theorem handledAlike_recordHistory (agree : AgreeAt key s.history s'.history) (v : Value) :
    HandledAlike key (s.recordHistory key v) (s'.recordHistory key v) := by
  unfold recordHistory
  dsimp only
  split
  · obtain ⟨flag, after⟩ := agree.record s.history.keyed_pairs s'.history.keyed_pairs trivial
      ((v.part "conditions").items.map Condition.ofPayload)
    rw [flag]
    exact handledAlike_moved after.current after _
  · exact .failed agree

/-- A request about a group is handled alike where the group cannot tell the histories apart. -/
theorem handledAlike_runHistory (agree : AgreeAt key s.history s'.history)
    (action : HistoryAction) :
    HandledAlike key (s.runHistory r key action) (s'.runHistory r key action) := by
  have keyed := s.history.keyed_pairs
  have keyed' := s'.history.keyed_pairs
  cases action with
  | current => exact handledAlike_moved agree.current agree _
  | undo =>
      obtain ⟨same, after⟩ := agree.move keyed keyed' trivial Timeline.canUndo (-1)
      exact handledAlike_moved same after _
  | redo =>
      obtain ⟨same, after⟩ := agree.move keyed keyed' trivial Timeline.canRedo 1
      exact handledAlike_moved same after _
  | clear =>
      have cleared := agree.clear keyed keyed' trivial
      exact @handledAlike_moved s s' key (none, s.history.clear key)
        (none, s'.history.clear key) rfl cleared .null
  | record =>
      rw [runHistory, runHistory, withContent, withContent]
      cases r.read Payload.recordFields with
      | ok v => exact handledAlike_recordHistory agree v
      | error reply => exact .answered agree

theorem dispatch_of_isAbout (about : r.isAbout key = true) :
    ∃ action, ∀ (s : Service) (outside : Surroundings) (requestId : String),
      s.dispatch outside requestId r = s.runHistory r key action := by
  unfold Request.isAbout at about
  split at about
  · next action taskId groupId goes =>
      cases eq_of_beq about
      refine ⟨action, fun s outside requestId => ?_⟩
      rw [dispatch, goes]
      rfl
  · cases about

/-- A request about a group is answered alike where the group cannot tell the histories apart. -/
theorem step_of_isAbout (about : r.isAbout key = true)
    (agree : AgreeAt key s.history s'.history) :
    (s.step outside r).1 = (s'.step outside r).1 ∧
      AgreeAt key (s.step outside r).2.history (s'.step outside r).2.history := by
  obtain ⟨action, handled⟩ := dispatch_of_isAbout about
  have alike := @handledAlike_runHistory s s' r key agree action
  unfold step
  dsimp only
  rw [handled s, handled s']
  generalize s.runHistory r key action = x at alike
  generalize s'.runHistory r key action = y at alike
  cases alike with
  | failed after => exact ⟨rfl, after⟩
  | answered after =>
      dsimp only
      split
      · exact ⟨rfl, after⟩
      · exact ⟨rfl, after⟩

/-- No other request is one that a group can tell. -/
theorem step_of_not_isAbout (other : r.isAbout key = false) :
    AgreeAt key (s.step outside r).2.history s.history := by
  rcases @step_history outside s r with
    unchanged | ⟨action, taskId, groupId, command, goes, -, called⟩
  · rw [unchanged]
    exact .refl key s.history
  · rw [called]
    have apart : (taskId, groupId) ≠ key := by
      rw [Request.isAbout, goes] at other
      exact beq_eq_false_iff_ne.mp other
    exact s.history.keyed_pairs.agreeAt_call trivial trivial apart command

/-- What is answered about a group by another status than that of success has left all as it was. -/
theorem unread_of_runHistory {action : HistoryAction} {reply : Reply} {after : Service}
    (h : s.runHistory r key action = .ok (reply, after)) (status : reply.status ≠ 200) :
    after = s := by
  have shown {s : Service} {moved : Option Snapshot × History (String × String)} {recorded : Value}
      (h : s.historyMoved key moved recorded = .ok (reply, after)) : False := by
    unfold historyMoved at h
    dsimp only at h
    split at h
    · cases h
      exact status rfl
    · cases h
  cases action with
  | current => exact (shown h).elim
  | undo => exact (shown h).elim
  | redo => exact (shown h).elim
  | clear => exact (@shown s (none, s.history.clear key) .null h).elim
  | record =>
      rw [runHistory, withContent] at h
      split at h
      · rw [recordHistory] at h
        dsimp only at h
        split at h
        · exact (shown h).elim
        · cases h
      · cases h
        rfl

/-- A request that is turned down has not touched any history. -/
theorem history_of_rejected (least : 400 ≤ (s.step outside r).1.status)
    (most : (s.step outside r).1.status < 500) : (s.step outside r).2.history = s.history := by
  rcases @step_history outside s r with unchanged | ⟨action, taskId, groupId, -, goes, -, -⟩
  · exact unchanged
  · have handled (requestId : String) :
        s.dispatch outside requestId r = s.runHistory r (taskId, groupId) action := by
      rw [dispatch, goes]
      rfl
    obtain ⟨requestId, reply, after, answered, same, -⟩ :=
      @step_answered outside s r (Nat.ne_of_lt most)
    rw [handled] at answered
    rw [history_step, handled, answered]
    refine congrArg history (unread_of_runHistory answered fun success => ?_)
    rw [same, success] at least
    exact absurd least (by decide)

/-- With the requests about a group left alone, the group is answered as before. -/
theorem responses_apart (agree : AgreeAt key s.history s'.history)
    (calls : List (Surroundings × Request)) :
    ((s.turns calls).filter (·.request.isAbout key)).map Turn.response =
        (s'.turns (calls.filter (·.2.isAbout key))).map Turn.response ∧
      AgreeAt key (s.after calls).history (s'.after (calls.filter (·.2.isAbout key))).history := by
  induction calls generalizing s s' with
  | nil => exact ⟨rfl, agree⟩
  | cons call rest ih =>
      obtain ⟨outside, r⟩ := call
      cases about : r.isAbout key with
      | true =>
          obtain ⟨same, next⟩ := @step_of_isAbout outside s s' r key about agree
          obtain ⟨responses, final⟩ := ih next
          simp only [turns, List.filter_cons, about, if_true, List.map_cons]
          exact ⟨congrArg₂ List.cons same responses, final⟩
      | false =>
          have next := (@step_of_not_isAbout outside s r key about).trans agree
          simp only [turns, List.filter_cons, about, Bool.false_eq_true, if_false]
          exact ih next

/-- Whatever is requested in a session, the responses about a group are those of the session with
nothing but the requests about it, and its timeline ends up as in that session. What is turned down
leaves every timeline as it was. -/
theorem groups_apart (config : Config) (catalog : Catalog) (key : String × String)
    (calls : List (Surroundings × Request)) :
    (((start config catalog).turns calls).filter (·.request.isAbout key)).map Turn.response =
        ((start config catalog).turns (calls.filter (·.2.isAbout key))).map Turn.response ∧
      ((start config catalog).after calls).history.timeline? key =
        ((start config catalog).after (calls.filter (·.2.isAbout key))).history.timeline? key ∧
      ∀ t ∈ (start config catalog).turns calls, 400 ≤ t.response.status →
        t.response.status < 500 → t.after.history = t.service.history := by
  obtain ⟨responses, final⟩ := responses_apart (.refl key (start config catalog).history) calls
  exact ⟨responses, final.timeline, fun t _ least most => history_of_rejected least most⟩

/-- A request about the history of a group. -/
def groupRequest (method path : String) (content : Content) : Request :=
  ⟨method, path, [], [("Content-Type", "application/json")], content⟩

/-- Two tasks have a group of one id. In between a request is turned down. -/
def twoTasks : List (Surroundings × Request) :=
  let conditions : Content :=
    .value (.dict [("conditions", .list [.dict [("property", .text "Name")]])])
  [(quiet, groupRequest "POST" "/compliance/history/plan/groups/1" conditions),
    (quiet, groupRequest "POST" "/compliance/history/other/groups/1" conditions),
    (quiet, groupRequest "POST" "/compliance/history/other/groups/1/undo" .none),
    (quiet, groupRequest "POST" "/compliance/history/plan/groups/1"
      (.value (.dict [("conditions", .int 1)]))),
    (quiet, groupRequest "GET" "/compliance/history/plan/groups/1" .none)]

/-- Three of the five requests are about the first group, and are answered as if they were alone. -/
theorem groups_apart_twoTasks :
    (((start .fallback Catalog.standard).turns twoTasks).filter
        (·.request.isAbout ("plan", "1"))).map (·.response.status) = [200, 422, 200] ∧
      ((start .fallback Catalog.standard).turns
        (twoTasks.filter (·.2.isAbout ("plan", "1")))).map (·.response.status) =
          [200, 422, 200] := by
  have answered : (((start .fallback Catalog.standard).turns twoTasks).filter
      (·.request.isAbout ("plan", "1"))).map (·.response.status) = [200, 422, 200] := by
    decide +kernel
  obtain ⟨alone, -, -⟩ := groups_apart .fallback Catalog.standard ("plan", "1") twoTasks
  refine ⟨answered, ?_⟩
  have statuses := congrArg (List.map Response.status) alone
  rw [List.map_map, List.map_map] at statuses
  exact statuses.symm.trans answered

end Service
end CourseAudit
