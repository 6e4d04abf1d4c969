import CourseAudit.Proofs.Restoring
import CourseAudit.Proofs.Writing

/-!
Which accepted requests fail. A request about tasks, conditions or their values that is of the form
it has to be is answered, well or by a rejection of the service's own, unless a value overflows,
lies too deep, or has a text that cannot be written.
-/
namespace CourseAudit

namespace Value

mutual

/-- Nothing but halves keeps an answer from being written. -/
theorem isWritable_finite : ∀ v : Value, v.finite.isWritable = !v.finite.holdsHalf
  | .float x => by
      cases h : x.isFinite <;> simp [finite, h, isWritable, holdsHalf]
  | .list items => areWritable_finiteItems items
  | .tuple items => areWritable_finiteItems items
  | .dict entries => entriesWritable_finiteEntries entries
  | .text _ => rfl
  | .null | .bool _ | .int _ | .date _ | .moment _ | .choice _ => rfl

theorem areWritable_finiteItems : ∀ items : List Value,
    areWritable (finiteItems items) = !itemsHoldHalf (finiteItems items)
  | [] => rfl
  | v :: rest => by
      rw [finiteItems, areWritable, itemsHoldHalf, isWritable_finite v,
        areWritable_finiteItems rest, Bool.not_or]

theorem entriesWritable_finiteEntries : ∀ entries : List (String × Value),
    entriesWritable (finiteEntries entries) = !entriesHoldHalf (finiteEntries entries)
  | [] => rfl
  | (name, v) :: rest => by
      rw [finiteEntries, entriesWritable, entriesHoldHalf, isWritable_finite v,
        entriesWritable_finiteEntries rest, Bool.not_or, Bool.not_or]

end

end Value

/-- Whether a request asks something about tasks, conditions or their values, and its content is of
the form that it has to be. -/
def Request.isAccepted (r : Request) : Bool :=
  match Destination.of r.method r.path with
  | .found .dynamicValues => true
  | .found .validate => (r.read Payload.validateFields).isOk
  | .found .evaluate => (r.read Payload.evaluateFields).isOk
  | .found .context => (r.read Payload.contextFields).isOk
  | .found (.history .record _ _) => (r.read Payload.recordFields).isOk
  | .found (.history _ _ _) => true
  | _ => false

namespace Turn

/-- The answer to a request shows a text with a half. -/
def ShowsHalf (t : Turn) : Prop :=
  ∃ reply after v, t.service.dispatch t.outside t.requestId t.request = .ok (reply, after) ∧
    reply.body = .json v ∧ v.holdsHalf = true

/-- A request asks for more sections to be decided than it may. -/
def AsksTooMuch (t : Turn) : Prop :=
  ∃ v, t.content? .context Payload.contextFields = some v ∧
    t.service.config.maxSections < (v.part "sections").items.length

/-- A request asks for values of a type that there is not. -/
def AsksUnknownType (t : Turn) : Prop :=
  Destination.of t.request.method t.request.path = .found .dynamicValues ∧
    t.request.namesUnknownType = true

/-- Content of the form comes to an event of its own. -/
theorem isAccepted_of_contentEvent {r : Request} {fields : Payload.Fields}
    {event? : Value → Option Event} {event : Event} (accepted : (r.read fields).isOk = true)
    (each : ∀ v, event? v = some event → event.isAccepted = true)
    (happens : Service.contentEvent? r fields event? = some event) : event.isAccepted = true := by
  unfold Service.contentEvent? at happens
  cases reading : r.read fields with
  | ok v =>
      rw [reading] at happens
      exact each v happens
  | error reply =>
      rw [reading] at accepted
      cases accepted

/-- What an accepted request amounts to is none of the events of others. -/
theorem isAccepted_of_event {t : Turn} (accepted : t.request.isAccepted = true) {event : Event}
    (happens : t.event? = some event) : event.isAccepted = true := by
  unfold Request.isAccepted at accepted
  unfold event? at happens
  cases goes : Destination.of t.request.method t.request.path with
  | wrongMethod | elsewhere | nowhere =>
      rw [goes] at accepted
      cases accepted
  | found route =>
      rw [goes] at accepted happens
      cases route with
      | root | health | metrics | catalog | manual => cases accepted
      | dynamicValues =>
          dsimp only [Service.routeEvent?] at happens
          split at happens
          all_goals
            cases happens
            rfl
      | validate =>
          refine isAccepted_of_contentEvent accepted (fun v same => ?_) happens
          obtain ⟨gaps, -, rfl⟩ := Option.map_eq_some_iff.mp same
          rfl
      | evaluate =>
          refine isAccepted_of_contentEvent accepted (fun v same => ?_) happens
          obtain ⟨review, -, rfl⟩ := Option.map_eq_some_iff.mp same
          rfl
      | context =>
          refine isAccepted_of_contentEvent accepted (fun v same => ?_) happens
          split at same
          all_goals
            cases same
            rfl
      | history action taskId groupId =>
          cases action with
          | record =>
              refine isAccepted_of_contentEvent accepted (fun v same => ?_) happens
              split at same
              all_goals
                cases same
              rfl
          | _ =>
              cases happens
              rfl

/-- The answer to an accepted request is one that cannot be written exactly when it shows a half. -/
theorem unwritable_iff_of_accepted {t : Turn} (accepted : t.request.isAccepted = true) :
    t.Unwritable ↔ t.ShowsHalf := by
  have comes := t.comesTo
  unfold Unwritable ShowsHalf
  generalize t.service.dispatch t.outside t.requestId t.request = x at comes
  generalize happens : t.event? = e at comes
  cases comes with
  | failed => simp
  | @answered event reply after works config metrics answers =>
      obtain ⟨unrefused, v, body⟩ := answers.plain (isAccepted_of_event accepted happens)
      have written : reply.isWritable = !v.finite.holdsHalf := by
        rw [Reply.isWritable, unrefused, body, ← Value.isWritable_finite]
        rfl
      simp [written, body]

/-- Nothing that is answered to an accepted request holds a half unless one has come in. -/
theorem IsWhole.answersWhole {t : Turn} (whole : t.IsWhole)
    (accepted : t.request.isAccepted = true) :
    Service.AnswersWhole (t.service.dispatch t.outside t.requestId t.request) := by
  unfold Request.isAccepted at accepted
  cases goes : Destination.of t.request.method t.request.path with
  | wrongMethod | elsewhere | nowhere =>
      rw [goes] at accepted
      cases accepted
  | found route =>
      rw [goes] at accepted
      rw [Service.dispatch, goes]
      have content (v : Value) (read : t.brought? = some v) := whole.content v read
      rw [brought?, goes] at content
      have ids := whole.received.requestId
      cases route with
      | root | health | metrics | catalog | manual => cases accepted
      | dynamicValues =>
          exact Service.answersWhole_dynamicValues ids (fun _ => whole.received.query)
            whole.settings
      | validate =>
          refine Service.answersWhole_withContent accepted fun v reading => ?_
          have part := Value.holdsHalf_part (content v (by rw [reading]; rfl))
          exact Service.answersWhole_validate (PlanTask.isWhole_ofPayload (part "task"))
      | evaluate =>
          refine Service.answersWhole_withContent accepted fun v reading => ?_
          have task := Request.task_of_read Payload.evaluateFields_defaultsFit rfl reading
          have structured := (PlanTask.wellTyped_ofPayload task).isStructured
          exact Service.answersWhole_evaluate structured whole.settings
            (content v (by rw [reading]; rfl))
      | context =>
          refine Service.answersWhole_withContent accepted fun v reading => ?_
          have task := Request.task_of_read Payload.contextFields_defaultsFit rfl reading
          have structured := (PlanTask.wellTyped_ofPayload task).isStructured
          exact Service.answersWhole_evaluateContext structured ids whole.settings
            (content v (by rw [reading]; rfl))
      | history action taskId groupId =>
          have group := whole.group action taskId groupId goes
          cases action with
          | current =>
              exact Service.answersWhole_moved group (fun _ => whole.kept.current) rfl
          | undo | redo =>
              exact Service.answersWhole_moved group
                (fun _ moved => (whole.kept.move _ _).current (History.current_move moved)) rfl
          | clear =>
              exact @Service.answersWhole_moved t.service (taskId, groupId)
                (none, t.service.history.clear (taskId, groupId)) .null group
                (fun _ none => by cases none) rfl
          | record =>
              refine Service.answersWhole_withContent accepted fun v reading => ?_
              exact Service.answersWhole_recordHistory group whole.kept
                (content v (by rw [reading]; rfl))

theorem IsWhole.showsNoHalf {t : Turn} (whole : t.IsWhole)
    (accepted : t.request.isAccepted = true) : ¬ t.ShowsHalf := by
  rintro ⟨reply, after, v, answered, body, half⟩
  have none := whole.answersWhole accepted reply after v answered body
  exact absurd (half.symm.trans none) (by decide)

/-- Only two kinds of accepted requests are rejected. -/
theorem rejected_iff {t : Turn} {kind : RejectionKind} :
    t.event? = some (.rejected kind) ↔
      kind = .validation ∧ t.AsksUnknownType ∨ kind = .payload ∧ t.AsksTooMuch := by
  have many : t.event? = some (.rejected .payload) ↔ t.AsksTooMuch := by
    have own : t.service.routeEvent? t.outside t.request .context =
        Service.contentEvent? t.request Payload.contextFields _ := rfl
    rw [event?_iff_content own rfl]
    refine exists_congr fun v => and_congr_right fun _ => ?_
    split <;> simp_all
  have unknown : t.event? = some (.rejected .validation) ↔ t.AsksUnknownType := by
    constructor
    · intro happens
      obtain ⟨route, goes, comes, came⟩ := route_of_event happens (by simp)
      have only : route = .dynamicValues := Event.eq_of_route? rfl comes
      rw [only] at goes came
      refine ⟨goes, ?_⟩
      by_contra known
      rw [Service.routeEvent?, if_neg known] at came
      cases came
    · rintro ⟨goes, unknown⟩
      rw [event?_of_route goes, Service.routeEvent?, if_pos unknown]
  cases kind with
  | validation => simpa using unknown
  | payload => simpa using many
  | catalog | service =>
      simp only [reduceCtorEq, false_and, or_self, iff_false]
      intro happens
      obtain ⟨route, -, comes, -⟩ := route_of_event happens (by simp)
      cases route <;> cases comes

/-- The answer to an accepted request that is not rejected is a plain success. -/
theorem succeeds_of_accepted {event : Event} {reply : Reply} (answers : event.Answers reply)
    (accepted : event.isAccepted = true) (unrejected : ∀ kind, event ≠ .rejected kind) :
    reply.status = 200 ∧ reply.body.code? = none := by
  have among := answers.status
  have code := answers.code
  cases event with
  | told | checked | turnedAway => cases accepted
  | rejected kind => exact absurd rfl (unrejected kind)
  | _ => exact ⟨List.mem_singleton.mp among, code⟩

/-- How an accepted request is answered: as a failure when a value overflows or lies too deep or the
answer shows a half, and else well, unless it asks for values of an unknown type or for too many
sections. -/
structure IsAnswered (t : Turn) : Prop where
  failure : t.response.status = 500 ↔ t.Overflows ∨ t.TooDeep ∨ t.ShowsHalf
  answer : t.response.status ≠ 500 →
    t.response.status = 200 ∧ t.response.body.code? = none ∧
        ¬ t.AsksUnknownType ∧ ¬ t.AsksTooMuch ∨
      t.response.status = 400 ∧ (
        t.response.body.code? = some "VALIDATION_ERROR" ∧ t.AsksUnknownType ∨
          t.response.body.code? = some "INVALID_PAYLOAD" ∧ t.AsksTooMuch)

theorem isAnswered (t : Turn) (accepted : t.request.isAccepted = true) : t.IsAnswered := by
  have shows := unwritable_iff_of_accepted accepted
  obtain ⟨ends, -, -⟩ := t.ends
  cases ends with
  | failed broken response =>
      refine ⟨?_, ?_⟩
      · rw [response, ← shows]
        exact ⟨fun _ => broken, fun _ => rfl⟩
      · rw [response]
        exact fun works => absurd rfl works
  | @answered event reply happens works answers response =>
      refine ⟨?_, fun _ => ?_⟩
      · rw [response, ← shows]
        exact ⟨fun failure => absurd failure answers.ne_failure, fun broken => absurd broken works⟩
      rw [response]
      by_cases rejected : ∃ kind, event = .rejected kind
      · obtain ⟨kind, rfl⟩ := rejected
        refine .inr ⟨List.mem_singleton.mp answers.status, ?_⟩
        rcases rejected_iff.mp happens with ⟨rfl, asked⟩ | ⟨rfl, asked⟩
        · exact .inl ⟨answers.code, asked⟩
        · exact .inr ⟨answers.code, asked⟩
      · obtain ⟨status, code⟩ := succeeds_of_accepted answers
          (isAccepted_of_event accepted happens) fun kind same => rejected ⟨kind, same⟩
        refine .inl ⟨status, code, fun unknown => ?_, fun many => ?_⟩
        · have turned := rejected_iff.mpr (.inl ⟨rfl, unknown⟩)
          exact rejected ⟨_, Option.some.inj (happens.symm.trans turned)⟩
        · have turned := rejected_iff.mpr (.inr ⟨rfl, many⟩)
          exact rejected ⟨_, Option.some.inj (happens.symm.trans turned)⟩

end Turn

namespace Service

/-- In every session accepted requests are answered as such, and where no half is set or comes with
a request, no answer shows one. -/
theorem accepted_answered (config : Config) (catalog : Catalog)
    (calls : List (Surroundings × Request)) :
    (∀ t ∈ (start config catalog).turns calls, t.request.isAccepted = true → t.IsAnswered) ∧
      (Value.entriesHoldHalf config.entries = false →
        (∀ t ∈ (start config catalog).turns calls, t.ComesWhole) →
          ∀ t ∈ (start config catalog).turns calls, t.request.isAccepted = true →
            ¬ t.ShowsHalf) := by
  refine ⟨fun t _ accepted => t.isAnswered accepted, ?_⟩
  intro settings come t member accepted
  have nothing : (start config catalog).history.Holds Condition.IsWhole :=
    fun _ none => absurd none List.not_mem_nil
  exact (isWhole_of_turns settings nothing come t member).showsNoHalf accepted

end Service

/-- A task that wants more assignments than there are numbers for. -/
def Request.hugeValue : Request where
  method := "POST"
  path := "/compliance/validate"
  query := []
  headers := [("Content-Type", "application/json"), ("X-Request-Id", "7")]
  content := .value (.dict [("task", .dict [("name", .text "Size"),
    ("conditionGroups", .list [.dict [("conditions", .list [.dict [
      ("groupType", .text "LMS Condition"), ("source", .text "Assignments"),
      ("property", .text "Total Count"), ("operator", .text "Is greater than"),
      ("value", .int (Nat.pow 10 400))]])]])])])

/-- The task is checked by a service that has just started. -/
def Turn.hugeValue : Turn := ⟨.start .fallback Catalog.standard, Service.quiet, .hugeValue⟩

theorem Turn.comesWhole_hugeValue : hugeValue.ComesWhole where
  received := by
    unfold Turn.IsReceived
    decide +kernel
  content v brought := by
    have content : hugeValue.brought?.all (fun v => !v.holdsHalf) = true := by decide +kernel
    rw [brought] at content
    simpa using content
  group action taskId groupId other := by
    have goes : Destination.of hugeValue.request.method hugeValue.request.path =
        .found .validate := by decide +kernel
    cases goes.symm.trans other

namespace Service

/-- No text holds a half, but the value overflows. -/
theorem accepted_answered_hugeValue :
    Value.entriesHoldHalf Config.fallback.entries = false ∧
      ∀ t ∈ (start .fallback Catalog.standard).turns [(quiet, .hugeValue)],
        t.ComesWhole ∧ t.request.isAccepted = true ∧ t.Overflows ∧ t.response.status = 500 := by
  have alone : (start .fallback Catalog.standard).turns [(quiet, .hugeValue)] =
      [Turn.hugeValue] := rfl
  obtain ⟨answered, shown⟩ := accepted_answered .fallback Catalog.standard [(quiet, .hugeValue)]
  rw [alone] at answered shown ⊢
  simp only [List.forall_mem_singleton] at answered shown ⊢
  have settings : Value.entriesHoldHalf Config.fallback.entries = false := by decide +kernel
  have accepted : Turn.hugeValue.request.isAccepted = true := by decide +kernel
  have status : Turn.hugeValue.response.status = 500 := by decide +kernel
  have goes : Destination.of Turn.hugeValue.request.method Turn.hugeValue.request.path =
      .found .validate := by decide +kernel
  refine ⟨settings, Turn.comesWhole_hugeValue, accepted, ?_, status⟩
  rcases (answered accepted).failure.mp status with overflows | ⟨_, _, _, other, -⟩ | half
  · exact overflows
  · cases goes.symm.trans other
  · exact absurd half (shown settings Turn.comesWhole_hugeValue accepted)

/-- Not every accepted request is answered. -/
theorem accepted_unanswered : ¬ ∀ config catalog calls,
    ∀ t ∈ (start config catalog).turns calls, t.request.isAccepted = true →
      t.response.status ≠ 500 := by
  intro answered
  have huge := answered .fallback Catalog.standard [(quiet, .hugeValue)] _ List.mem_cons_self
  exact huge (by decide +kernel) (by decide +kernel)

end Service
end CourseAudit
