import CourseAudit.Proofs.Events
import CourseAudit.Proofs.Validation

/-!
How a turn ends. Whatever is requested, the handling counts the event that the request amounts to
and answers it as such; it fails for conditions that lie too deep and for a value that overflows,
and for nothing else.
-/
namespace CourseAudit

theorem Body.field?_of_absent {name : String} {entries : List (String × Value)}
    (absent : name ∉ entries.map (·.1)) : (Body.json (.dict entries)).field? name = none := by
  have none : entries.find? (·.1 == name) = none := by
    rw [List.find?_eq_none]
    intro entry member same
    exact absent (List.mem_map.mpr ⟨entry, member, eq_of_beq same⟩)
  rw [field?, Value.get?, none]
  rfl

theorem Value.names_finiteEntries (entries : List (String × Value)) :
    (finiteEntries entries).map (·.1) = entries.map (·.1) := by
  induction entries with
  | nil => rfl
  | cons entry rest ih => exact congrArg (entry.1 :: ·) ih

namespace Event

variable {event : Event}

/-- What an answer to an event is. -/
structure Answers (event : Event) (reply : Reply) : Prop where
  status : reply.status ∈ event.statuses
  code : reply.body.code? = event.code?
  recorded : reply.body.saysRecorded = (event == .history true)
  plain : event.isAccepted = true → reply.refused = [] ∧ ∃ v : Value, reply.body = .json v.finite

/-- An event that is no matter of codes and records is answered without them. -/
def IsPlain (event : Event) : Prop := event.code? = none ∧ event ≠ .history true

theorem IsPlain.answers_unaccepted (h : event.IsPlain) (unaccepted : event.isAccepted = false)
    {status : Nat} {entries : List (String × Value)} {refused : List Value}
    (among : status ∈ event.statuses) (code : "code" ∉ entries.map (·.1))
    (recorded : "recorded" ∉ entries.map (·.1)) :
    event.Answers ⟨status, .json (.dict entries), refused⟩ where
  status := among
  code := by rw [Body.code?, Body.field?_of_absent code, h.1]; rfl
  recorded := by
    rw [Body.saysRecorded, Body.field?_of_absent recorded, beq_eq_false_iff_ne.mpr h.2]
    rfl
  plain accepted := absurd (accepted.symm.trans unaccepted) (by decide)

theorem IsPlain.answers_ok (h : event.IsPlain) {entries : List (String × Value)}
    (among : 200 ∈ event.statuses) (code : "code" ∉ entries.map (·.1))
    (recorded : "recorded" ∉ entries.map (·.1)) : event.Answers (Service.ok (.dict entries)) where
  status := among
  code := by
    rw [← Value.names_finiteEntries] at code
    rw [Service.ok, Value.finite, Body.code?, Body.field?_of_absent code, h.1]
    rfl
  recorded := by
    rw [← Value.names_finiteEntries] at recorded
    rw [Service.ok, Value.finite, Body.saysRecorded, Body.field?_of_absent recorded,
      beq_eq_false_iff_ne.mpr h.2]
    rfl
  plain _ := ⟨rfl, _, rfl⟩

end Event

/-- A rejection is answered by the id of the request, its code, its words and its details. -/
theorem Rejection.response_of (kind : RejectionKind) (message requestId : String)
    (details : List (String × Value)) :
    (of kind (.text message) (.dict details)).response (.text requestId) =
      .ok (.dict [("requestId", .text requestId), ("code", .text kind.code),
        ("message", .text message), ("details", .dict details)]) := by
  cases details with
  | nil => rfl
  | cons entry rest => rfl

/-- The word that a review is counted under is that of its standing. -/
theorem Review.IsWhole.outcomeWord {r : Review} (h : r.IsWhole) :
    Service.outcomeWord r = r.standing.label := by
  obtain ⟨status, data⟩ := r
  cases status with
  | noSection | invalid =>
      cases h
      rfl
  | evaluated | manual =>
      obtain ⟨d, rfl⟩ := h
      change (if d.outcome.passes then "pass" else "fail") =
        (if d.outcome.passes then Standing.pass else Standing.fail).label
      cases d.outcome.passes <;> rfl

namespace Service

variable {outside : Surroundings} {s : Service} {requestId : String} {r : Request}

/-- How a handling ends, by the event that the request amounts to. It is an answer to the event, or
it fails; either way the event has been counted. -/
inductive ComesTo (s : Service) (fails : Prop) : Option Event → Handled → Prop
  | answered {event : Event} {reply : Reply} {after : Service} (works : ¬ fails)
      (config : after.config = s.config)
      (metrics : after.metrics = s.metrics.marked (event.marks s.metrics.service))
      (answers : event.Answers reply) : ComesTo s fails (some event) (.ok (reply, after))
  | failed {event? : Option Event} {after : Service} (broken : fails)
      (config : after.config = s.config)
      (metrics : after.metrics = s.metrics.marked (Event.marksOf s.metrics.service event?)) :
      ComesTo s fails event? (.error after)

theorem comesTo_root : ComesTo s False (some .told) s.root := by
  refine .answered id rfl rfl ?_
  have plain : Event.IsPlain .told := ⟨rfl, by decide⟩
  exact plain.answers_unaccepted rfl (List.mem_singleton_self _) (by simp) (by simp)

theorem comesTo_health :
    ComesTo s False (some (.checked s.catalog.coverageProblems.isEmpty)) (s.health outside) := by
  have plain (healthy : Bool) : Event.IsPlain (.checked healthy) := ⟨rfl, by simp⟩
  unfold health
  cases s.catalog.coverageProblems.isEmpty with
  | true =>
      exact .answered id rfl rfl <|
        (plain true).answers_ok (List.mem_singleton_self _) (by simp) (by simp)
  | false =>
      exact .answered id rfl rfl <|
        (plain false).answers_unaccepted rfl (List.mem_singleton_self _) (by simp) (by simp)

theorem comesTo_catalog :
    ComesTo s False (some .told) (s.handled ⟨200, .json s.catalog.toValue, []⟩) := by
  refine .answered id rfl rfl ?_
  have plain : Event.IsPlain .told := ⟨rfl, by decide⟩
  exact plain.answers_unaccepted rfl (List.mem_singleton_self _) (by simp) (by simp)

theorem comesTo_metrics :
    ComesTo s False (some .told) (s.handled ⟨200, .metrics s.metrics, []⟩) := by
  refine .answered id rfl rfl ⟨List.mem_singleton_self _, rfl, rfl, ?_⟩
  exact fun accepted => by cases accepted

/-- A request that goes nowhere is turned away. -/
theorem comesTo_away {reply : Reply} (answers : Event.turnedAway.Answers reply) :
    ComesTo s False (some .turnedAway) (s.handled reply) := .answered id rfl rfl answers

theorem answers_detailReply {status : Nat} (among : status ∈ Event.turnedAway.statuses)
    (message : String) : Event.turnedAway.Answers (detailReply status message) :=
  Event.IsPlain.answers_unaccepted ⟨rfl, by decide⟩ rfl among (by simp) (by simp)

/-- A page of the manual is told where it is there. -/
theorem comesTo_manual (page : ManualPage) :
    ComesTo s False (some (if s.hasSite (.manual page) then .told else .turnedAway))
      (s.handled (if s.hasSite (.manual page) then ⟨200, .manual page, []⟩ else notFound)) := by
  cases s.hasSite (.manual page) with
  | true =>
      refine .answered id rfl rfl ⟨List.mem_singleton_self _, rfl, rfl, ?_⟩
      exact fun accepted => by cases accepted
  | false => exact comesTo_away (answers_detailReply (by decide) _)

theorem reject_eq (kind : RejectionKind) (message : String) (details : List (String × Value)) :
    s.reject requestId kind message details =
      { s with metrics := s.metrics.errorOccurred kind.code }.handled
        ⟨kind.status, .json (.dict [("requestId", .text requestId), ("code", .text kind.code),
          ("message", .text message), ("details", .dict details)]), []⟩ := by
  rw [reject, Rejection.response_of]
  rfl

/-- What is turned down is counted and answered by its code. -/
theorem comesTo_reject (kind : RejectionKind) (status : kind.status = 400) (message : String)
    (details : List (String × Value)) (plain : Value.finiteEntries details = details) :
    ComesTo s False (some (.rejected kind)) (s.reject requestId kind message details) := by
  rw [reject_eq]
  refine .answered id rfl rfl ⟨?_, ?_, ?_, fun _ => ⟨rfl, .dict [("requestId", .text requestId),
    ("code", .text kind.code), ("message", .text message), ("details", .dict details)], ?_⟩⟩
  · exact List.mem_singleton.mpr status
  · simp [Body.code?, Body.field?, Value.get?, Event.code?, Value.asText?]
  · simp [Body.saysRecorded, Body.field?, Value.get?]
  · simp only [Value.finite, Value.finiteEntries, plain]

theorem comesTo_dynamicValues : ComesTo s False
    (some (if r.namesUnknownType then .rejected .validation else .listed))
    (s.dynamicValues outside requestId r) := by
  have listed (shown : List DynamicValue) : ComesTo s False (some .listed)
      (s.handled (ok (.dict [("dynamicValues", .list (shown.map DynamicValue.toValue))]))) := by
    have plain : Event.IsPlain .listed := ⟨rfl, by decide⟩
    exact .answered id rfl rfl <|
      plain.answers_ok (List.mem_singleton_self _) (by simp) (by simp)
  unfold dynamicValues Request.namesUnknownType
  cases r.query? "type" with
  | none => exact listed _
  | some name =>
      cases empty : name.isEmpty with
      | true =>
          simp only [Option.any_some, empty, Bool.not_true, Bool.false_and, if_true,
            Bool.false_eq_true, if_false]
          exact listed _
      | false =>
          simp only [Option.any_some, empty, Bool.not_false, Bool.true_and, Bool.false_eq_true,
            if_false]
          cases ValueType.ofLabel? (Text.lower name) with
          | some type => exact listed _
          | none => exact comesTo_reject .validation rfl _ _ rfl

/-- Content that is not of the form is answered by what is wrong with it. -/
theorem comesTo_withContent (fails : Value → Prop) {fields : Payload.Fields}
    {event? : Value → Option Event} {handle : Value → Handled}
    (each : ∀ v, r.read fields = .ok v → ComesTo s (fails v) (event? v) (handle v)) :
    ComesTo s (∃ v, r.read fields = .ok v ∧ fails v) (contentEvent? r fields event?)
      (s.withContent r fields handle) := by
  unfold withContent contentEvent?
  cases reading : r.read fields with
  | ok v =>
      have same : (∃ w, Except.ok v = Except.ok (ε := Reply) w ∧ fails w) ↔ fails v := by simp
      rw [same]
      exact each v reading
  | error reply =>
      obtain ⟨told, body⟩ := Request.body_of_read_error reading
      have plain : Event.IsPlain .turnedAway := ⟨rfl, by decide⟩
      have status : reply.status ∈ Event.turnedAway.statuses := by
        rcases Request.read_error reading with is | is
        all_goals
          rw [is]
          decide
      refine .answered (fun ⟨_, read, _⟩ => by cases read) rfl rfl ?_
      cases reply
      cases body
      exact plain.answers_unaccepted rfl status (by simp) (by simp)

theorem comesTo_validate {t : PlanTask} (typed : t.WellTyped) {name : String}
    (named : t.name = .text name) : ComesTo s (t.Overflows s.catalog)
      ((t.gaps Catalog.standard).toOption.map fun gaps => .validated gaps.isEmpty)
      (s.validate t) := by
  obtain ⟨gaps, listed⟩ := typed.gaps_total Catalog.standard
  obtain ⟨savable, saved⟩ := typed.isSavable_total named Catalog.standard
  have plain : Event.IsPlain (.validated gaps.isEmpty) := ⟨rfl, by simp⟩
  unfold validate
  rw [listed, saved]
  dsimp only
  by_cases far : t.Overflows s.catalog
  · rw [far.allowedDisplays typed]
    exact .failed far rfl rfl
  · obtain ⟨allowed, offered⟩ := typed.allowedDisplays_total far
    rw [offered]
    exact .answered far rfl rfl <|
      plain.answers_ok (List.mem_singleton_self _) (by simp) (by simp)

/-- Content of the form is always reviewed. -/
theorem reviewOf_total (outside : Surroundings) (s : Service) {v : Value}
    (typed : (PlanTask.ofPayload (v.part "task")).WellTyped) :
    ∃ review, s.reviewOf outside v = .ok review := by
  refine typed.review_total ?_ _
  by_cases none : (v.part "section").isNull = true
  · exact .inl (if_pos none)
  · exact .inr ⟨_, if_neg none⟩

theorem comesTo_evaluate {v : Value} (typed : (PlanTask.ofPayload (v.part "task")).WellTyped) :
    ComesTo s False
      ((s.reviewOf outside v).toOption.map fun review => .evaluated review.standing)
      (s.evaluate outside v) := by
  obtain ⟨review, reviewed⟩ := reviewOf_total outside s typed
  have plain : Event.IsPlain (.evaluated review.standing) := ⟨rfl, by simp⟩
  unfold evaluate
  dsimp only
  rw [← reviewOf, reviewed]
  refine .answered id rfl ?_ (plain.answers_ok (List.mem_singleton_self _) ?_ ?_)
  · dsimp only
    rw [(PlanTask.isWhole_of_review reviewed).outcomeWord]
    rfl
  · simp
  · simp

theorem comesTo_evaluateContext {v : Value}
    (typed : (PlanTask.ofPayload (v.part "task")).WellTyped)
    (named : ∀ item ∈ (v.part "sections").items, (Section.ofPayload item).IsNamed) : ComesTo s False
      (some (if s.config.maxSections < (v.part "sections").items.length then .rejected .payload
        else .contextBuilt))
      (s.evaluateContext outside requestId v) := by
  unfold evaluateContext
  dsimp only
  split
  · exact comesTo_reject .payload rfl _ _ rfl
  · obtain ⟨entries, built⟩ := typed.contextEntries_total Catalog.standard
      (s.contextOf outside (v.part "today")) (List.forall_mem_map.mpr named)
    have plain : Event.IsPlain .contextBuilt := ⟨rfl, by decide⟩
    rw [built]
    exact .answered id rfl rfl <|
      plain.answers_ok (List.mem_singleton_self _) (by simp) (by simp)

theorem ComesTo.congr {fails other : Prop} {event? : Option Event} {x : Handled}
    (h : ComesTo s fails event? x) (same : fails ↔ other) : ComesTo s other event? x :=
  propext same ▸ h

/-- The state of a group is shown unless its conditions lie too deep. -/
theorem comesTo_moved (counted : Service) (key : String × String)
    (moved : Option Snapshot × History (String × String)) {said : Value} {recorded : Bool}
    (tells : said.isYes = recorded) (config : counted.config = s.config)
    (metrics : counted.metrics =
      s.metrics.marked ((Event.history recorded).marks s.metrics.service)) :
    ComesTo s ((!moved.1.all (withinLevels answeredLevels)) = true) (some (.history recorded))
      (counted.historyMoved key moved said) := by
  unfold historyMoved
  dsimp only
  cases within : moved.1.all (withinLevels answeredLevels) with
  | false => exact .failed rfl config metrics
  | true =>
      refine .answered (by simp) config metrics
        ⟨List.mem_singleton_self _, ?_, ?_, fun _ => ⟨rfl, _, rfl⟩⟩
      · simp [ok, historyValue, Value.finite, Value.finiteEntries, Body.code?, Body.field?,
          Value.get?, Event.code?]
      · have finite : said.finite.isYes = recorded := by
          rw [← tells]
          cases said with
          | float x => rw [Value.finite]; split <;> rfl
          | _ => rfl
        have same : recorded = (Event.history recorded == .history true) := by
          cases recorded <;> rfl
        simpa [ok, historyValue, Value.finite, Value.finiteEntries, Body.saysRecorded, Body.field?,
          Value.get?, finite] using same

theorem comesTo_recordHistory {key : String × String} (v : Value) :
    ComesTo s ((!withinLevels recordedLevels (recordedIn v) ||
        !((s.history.record key (recordedIn v)).2.current key).all
          (withinLevels answeredLevels)) = true)
      (if withinLevels recordedLevels (recordedIn v) then
        some (.history (s.history.record key (recordedIn v)).1)
      else none)
      (s.recordHistory key v) := by
  unfold recordHistory
  dsimp only
  rw [← recordedIn]
  cases within : withinLevels recordedLevels (recordedIn v) with
  | false => exact .failed rfl rfl rfl
  | true =>
      rw [if_pos rfl, if_pos rfl, Bool.not_true, Bool.false_or]
      cases kept : (s.history.record key (recordedIn v)).1 with
      | false => exact comesTo_moved s key (_, _) rfl rfl rfl
      | true =>
          exact comesTo_moved
            { s with metrics := s.metrics.businessEvent "condition_history_recorded" } key (_, _)
            rfl rfl rfl

theorem comesTo_runHistory {key : String × String} (action : HistoryAction) :
    ComesTo s (s.tooDeep r key action = true) (s.historyEvent? r key action)
      (s.runHistory r key action) := by
  cases action with
  | current => exact comesTo_moved s key (s.history.current key, s.history) rfl rfl rfl
  | undo => exact comesTo_moved s key (s.history.undo key) rfl rfl rfl
  | redo => exact comesTo_moved s key (s.history.redo key) rfl rfl rfl
  | clear => exact comesTo_moved s key (none, s.history.clear key) rfl rfl rfl
  | record =>
      refine (comesTo_withContent _ fun v _ => comesTo_recordHistory v).congr ?_
      unfold tooDeep
      cases r.read Payload.recordFields <;> simp

end Service

/-- The task in content of a form that asks for one. -/
theorem Request.task_of_read {r : Request} {fields : Payload.Fields}
    (defaults : fields.DefaultsFit) (asks : fields.form? "task" = some Payload.task) {v : Value}
    (h : r.read fields = .ok v) : Payload.task.Fits (v.part "task") :=
  (Request.read_fits defaults h).part "task" asks

namespace Service

variable {outside : Surroundings} {s : Service} {requestId : String} {r : Request}

/-- Every route comes to the event that the request amounts to there. -/
theorem comesTo_run (route : Route) : ComesTo s (s.FailsAt r route)
    (s.routeEvent? outside r route) (s.run outside requestId r route) := by
  cases route with
  | root => exact comesTo_root
  | health => exact comesTo_health
  | metrics => exact comesTo_metrics
  | catalog => exact comesTo_catalog
  | dynamicValues => exact comesTo_dynamicValues
  | validate =>
      refine comesTo_withContent _ fun v reading => ?_
      have task := Request.task_of_read Payload.validateFields_defaultsFit rfl reading
      obtain ⟨name, named⟩ := task.part "name" rfl
      exact comesTo_validate (PlanTask.wellTyped_ofPayload task) named
  | evaluate =>
      refine (comesTo_withContent (fun _ => False) fun v reading => ?_).congr (by simp [FailsAt])
      have task := Request.task_of_read Payload.evaluateFields_defaultsFit rfl reading
      exact comesTo_evaluate (PlanTask.wellTyped_ofPayload task)
  | context =>
      refine (comesTo_withContent (fun _ => False) fun v reading => ?_).congr (by simp [FailsAt])
      have task := Request.task_of_read Payload.contextFields_defaultsFit rfl reading
      have fits := Request.read_fits Payload.contextFields_defaultsFit reading
      have short := Request.holdsLong_read Payload.contextFields_defaultsShort reading
      refine comesTo_evaluateContext (PlanTask.wellTyped_ofPayload task) fun item member => ?_
      exact Section.isNamed_ofPayload
        (Payload.Form.Fits.items (.inl (fits.part "sections" rfl)) item member)
        (Value.holdsLong_items (Value.holdsLong_part short _) item member)
  | history action taskId groupId => exact comesTo_runHistory action
  | manual page => exact comesTo_manual page

end Service

namespace Turn

open Service

/-- Every request comes to its event. It is not handled to the end when a value overflows or lies
too deep. -/
theorem comesTo (t : Turn) : t.service.ComesTo (t.Overflows ∨ t.TooDeep) t.event?
    (t.service.dispatch t.outside t.requestId t.request) := by
  unfold event? Service.dispatch
  cases goes : Destination.of t.request.method t.request.path with
  | found route => exact (comesTo_run route).congr (failsAt_iff goes)
  | wrongMethod site =>
      refine (comesTo_away ?_).congr (by simp [Overflows, TooDeep, content?_eq_some_iff, goes])
      split
      · exact answers_detailReply (by decide) _
      · exact answers_detailReply (by decide) _
  | elsewhere site =>
      refine (comesTo_away ?_).congr (by simp [Overflows, TooDeep, content?_eq_some_iff, goes])
      split
      · exact ⟨by decide, rfl, rfl, fun accepted => by cases accepted⟩
      · exact answers_detailReply (by decide) _
  | nowhere =>
      exact (comesTo_away (answers_detailReply (by decide) _)).congr
        (by simp [Overflows, TooDeep, content?_eq_some_iff, goes])

/-- The answer to a request cannot be written. -/
def Unwritable (t : Turn) : Prop :=
  ∃ reply after, t.service.dispatch t.outside t.requestId t.request = .ok (reply, after) ∧
    reply.isWritable = false

/-- What is counted at the end of a turn: the answer that is sent, or the failure. -/
def closing (t : Turn) : List Mark :=
  if t.response.status = 500 then [⟨.errors, ["INTERNAL_ERROR", t.service.metrics.service]⟩]
  else
    [⟨.requests, [t.request.method, t.request.countedPath, toString t.response.status]⟩,
      ⟨.requestDurations, [t.request.method, t.request.countedPath]⟩]

/-- All that a turn counts. -/
def marks (t : Turn) : List Mark :=
  Event.marksOf t.service.metrics.service t.event? ++ t.closing

/-- How a turn ends: its event is answered under the id of the request, or it fails and the response
tells nothing but that. -/
inductive Ends (t : Turn) : Prop
  | answered {event : Event} {reply : Reply} (happens : t.event? = some event)
      (works : ¬ (t.Overflows ∨ t.TooDeep ∨ t.Unwritable)) (answers : event.Answers reply)
      (response : t.response = ⟨reply.status, some t.requestId, reply.body⟩)
  | failed (broken : t.Overflows ∨ t.TooDeep ∨ t.Unwritable)
      (response : t.response = ⟨500, none, .json failure⟩)

end Turn

/-- No event is answered as a failure. -/
theorem Event.Answers.ne_failure {event : Event} {reply : Reply} (h : event.Answers reply) :
    reply.status ≠ 500 := by
  intro failure
  have among := h.status
  rw [failure] at among
  revert among
  unfold Event.statuses
  split <;> decide

namespace Turn

open Service

/-- A failure is counted as an error behind the event, and tells nothing else. -/
theorem ends_of_failed {t : Turn} {after : Service}
    (stepped : t.service.step t.outside t.request = failed after)
    (broken : t.Overflows ∨ t.TooDeep ∨ t.Unwritable) (config : after.config = t.service.config)
    (metrics : after.metrics =
      t.service.metrics.marked (Event.marksOf t.service.metrics.service t.event?)) :
    t.Ends ∧ t.after.config = t.service.config ∧
      t.after.metrics = t.service.metrics.marked t.marks := by
  have response : t.response = ⟨500, none, .json failure⟩ := congrArg Prod.fst stepped
  have same : t.after = (failed after).2 := congrArg Prod.snd stepped
  have service : after.metrics.service = t.service.metrics.service := by
    rw [metrics, Metrics.service_marked]
  refine ⟨.failed broken response, ?_, ?_⟩
  · rw [same]
    exact config
  · rw [same, marks, closing, response, if_pos rfl, Metrics.marked_append, ← metrics, ← service]
    rfl

/-- Every turn ends, counts what happened on it, and leaves the configuration as it is. -/
theorem ends (t : Turn) : t.Ends ∧ t.after.config = t.service.config ∧
    t.after.metrics = t.service.metrics.marked t.marks := by
  have comes := t.comesTo
  generalize handled : t.service.dispatch t.outside t.requestId t.request = x at comes
  generalize happens : t.event? = e at comes
  rw [requestId] at handled
  cases comes with
  | @failed _ after broken config metrics =>
      have stepped : t.service.step t.outside t.request = failed after := by
        simp only [step, handled]
      exact ends_of_failed stepped (broken.imp_right .inl) config (happens ▸ metrics)
  | @answered event reply after works config metrics answers =>
      cases written : reply.isWritable with
      | false =>
          have stepped : t.service.step t.outside t.request = failed after := by
            simp only [step, handled, written, Bool.false_eq_true, if_false]
          exact ends_of_failed stepped (.inr (.inr ⟨_, _, handled, written⟩)) config
            (happens ▸ metrics)
      | true =>
          have stepped : t.service.step t.outside t.request =
              (⟨reply.status, some t.requestId, reply.body⟩, { after with
                metrics := after.metrics.requestAnswered t.request.method t.request.countedPath
                  (toString reply.status) }) := by
            simp only [step, handled, written, if_true]
            rfl
          have response : t.response = _ := congrArg Prod.fst stepped
          have same : t.after = _ := congrArg Prod.snd stepped
          refine ⟨.answered happens ?_ answers response, ?_, ?_⟩
          · rintro (overflows | deep | ⟨_, _, again, unwritten⟩)
            · exact works (.inl overflows)
            · exact works (.inr deep)
            · cases handled.symm.trans again
              exact absurd (written.symm.trans unwritten) (by decide)
          · rw [same]
            exact config
          · rw [same, marks, closing, happens, response, if_neg answers.ne_failure,
              Metrics.marked_append]
            exact congrArg (Metrics.requestAnswered · _ _ _) metrics

end Turn

namespace Service

variable {s : Service} {number : Metrics → Nat} {kind : Mark → Bool} {p : Turn → Bool}

/-- What every turn adds one to or leaves alone adds up to the number of those that add to it. -/
theorem tally_after (tally : Metrics.IsTally number kind) {calls : List (Surroundings × Request)}
    (each : ∀ t ∈ s.turns calls, t.marks.countP kind = if p t then 1 else 0) :
    number (s.after calls).metrics = number s.metrics + (s.turns calls).countP p := by
  induction calls generalizing s with
  | nil => rfl
  | cons call rest ih =>
      let t : Turn := ⟨s, call.1, call.2⟩
      have split : s.turns (call :: rest) = t :: t.after.turns rest := rfl
      have final : s.after (call :: rest) = t.after.after rest := rfl
      rw [split] at each
      have later := @ih t.after fun u member => each u (List.mem_cons_of_mem _ member)
      have first : number t.after.metrics = number s.metrics + if p t then 1 else 0 := by
        rw [t.ends.2.2, tally, each t List.mem_cons_self]
      rw [split, final, later, first, List.countP_cons]
      omega

/-- A service keeps its configuration and its name throughout a session. -/
theorem names_kept (s : Service) (calls : List (Surroundings × Request)) :
    ∀ t ∈ s.turns calls, t.service.config = s.config ∧
      t.service.metrics.service = s.metrics.service := by
  have kept (t : Turn) : t.after.metrics.service = t.service.metrics.service := by
    rw [t.ends.2.2, Metrics.service_marked]
  have configs := @kept_of_turns Config Service.config (fun t => t.ends.2.1) s calls
  have services := @kept_of_turns String (·.metrics.service) kept s calls
  exact fun t member => ⟨configs.2 t member, services.2 t member⟩

end Service
end CourseAudit
