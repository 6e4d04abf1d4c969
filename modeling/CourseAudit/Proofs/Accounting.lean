import CourseAudit.Proofs.Observation

/-!
What the counts of a service account for. After every session each count of an event is the number
of the requests that the event came of, told by what was requested and, where the answer shows it,
by what was answered.
-/
namespace CourseAudit

/-- Marks that are labelled by a type and the service are told apart by their types. -/
theorem Mark.hits_of_service {metric : Metric} {label : String}
    (labels : metric.labels = [label, "service"]) (type other service : String) :
    Mark.hits metric [type, service] ⟨metric, [other, service]⟩ = (other == type) := by
  rw [Bool.eq_iff_iff]
  simp [Mark.hits, labels]

namespace Event

variable (service : String) (event? : Option Event)

theorem countP_evaluations (standing : Standing) :
    (marksOf service event?).countP (·.hits .evaluations [standing.label]) =
      if event? = some (.evaluated standing) then 1 else 0 := by
  cases event? with
  | none => rfl
  | some event =>
      cases event with
      | evaluated other => cases standing <;> cases other <;> rfl
      | checked b | validated b | history b => cases b <;> rfl
      | rejected kind => cases kind <;> rfl
      | _ => rfl

theorem countP_validations (complete : Bool) :
    (marksOf service event?).countP
        (·.hits .validations [if complete then "true" else "false"]) =
      if event? = some (.validated complete) then 1 else 0 := by
  cases event? with
  | none => rfl
  | some event =>
      cases event with
      | validated other => cases complete <;> cases other <;> rfl
      | checked b | history b => cases b <;> rfl
      | rejected kind => cases kind <;> rfl
      | _ => rfl

/-- What kind of business event an event is, if it is one. -/
def businessType? : Event → Option String
  | .evaluated _ => some "task_evaluated"
  | .contextBuilt => some "validation_context_built"
  | .history true => some "condition_history_recorded"
  | _ => none

/-- Whether an event is an evaluation, whatever came of it. -/
def isEvaluated : Event → Bool
  | .evaluated _ => true
  | _ => false

theorem countP_businessEvents (type : String) :
    (marksOf service event?).countP (·.hits .businessEvents [type, service]) =
      if event?.bind businessType? = some type then 1 else 0 := by
  have own (other : String) : Mark.hits .businessEvents [type, service]
      ⟨.businessEvents, [other, service]⟩ = (other == type) :=
    Mark.hits_of_service rfl type other service
  have durations (values : List String) :
      Mark.hits .businessEvents [type, service] ⟨.evaluationDurations, values⟩ = false := rfl
  have evaluations (values : List String) :
      Mark.hits .businessEvents [type, service] ⟨.evaluations, values⟩ = false := rfl
  cases event? with
  | none => rfl
  | some event =>
      cases event with
      | evaluated standing =>
          simp [marksOf, marks, businessType?, own, durations, evaluations, List.countP_cons]
      | contextBuilt => simp [marksOf, marks, businessType?, own, durations, List.countP_cons]
      | history recorded =>
          cases recorded with
          | true => simp [marksOf, marks, businessType?, own]
          | false => rfl
      | _ => rfl

/-- Apart from the evaluations, no two events are business events of one type. -/
theorem businessType?_eq_iff {event : Event}
    (sole : event = .contextBuilt ∨ event = .history true) :
    event?.bind businessType? = event.businessType? ↔ event? = some event := by
  cases event? with
  | none => rcases sole with rfl | rfl <;> simp [businessType?]
  | some other =>
      cases other with
      | history recorded => rcases sole with rfl | rfl <;> cases recorded <;> simp [businessType?]
      | _ => rcases sole with rfl | rfl <;> simp [businessType?]

theorem any_isEvaluated_iff : event?.any isEvaluated = true ↔
    event?.bind businessType? = some "task_evaluated" := by
  cases event? with
  | none => simp
  | some event =>
      cases event with
      | history recorded => cases recorded <;> simp [businessType?, isEvaluated]
      | _ => simp [businessType?, isEvaluated]

theorem countP_errors (type : String) :
    (marksOf service event?).countP (·.hits .errors [type, service]) =
      if event?.bind code? = some type then 1 else 0 := by
  have own (other : String) : Mark.hits .errors [type, service] ⟨.errors, [other, service]⟩ =
      (other == type) := Mark.hits_of_service rfl type other service
  cases event? with
  | none => rfl
  | some event =>
      cases event with
      | rejected kind => simp [marksOf, marks, code?, own]
      | history recorded => cases recorded <;> rfl
      | _ => rfl

/-- No two kinds of rejections go by one code. -/
theorem code?_eq_iff {kind : RejectionKind} :
    event?.bind code? = some kind.code ↔ event? = some (.rejected kind) := by
  cases event? with
  | none => simp
  | some event =>
      cases event with
      | rejected other => cases kind <;> cases other <;> decide
      | _ => simp [code?]

theorem countP_evaluated :
    (marksOf service event?).countP (·.metric.sampleName == Metric.evaluations.sampleName) =
      if event?.any isEvaluated then 1 else 0 := by
  cases event? with
  | none => rfl
  | some event =>
      cases event with
      | history recorded => cases recorded <;> rfl
      | _ => rfl

end Event

theorem any_toOption_iff {ε α : Type} {x : Except ε α} {p : α → Bool} :
    x.toOption.any p = true ↔ ∃ a, x = .ok a ∧ p a = true := by
  cases x <;> simp [Except.toOption]

namespace Turn

/-- Whether a task is reviewed on a turn, and the review counts as it does. -/
def evaluates (standing : Standing) (t : Turn) : Bool :=
  (t.content? .evaluate Payload.evaluateFields).any fun v =>
    (t.service.reviewOf t.outside v).toOption.any (·.standing == standing)

/-- Whether a task is checked on a turn, and is found complete or not. -/
def validates (complete : Bool) (t : Turn) : Bool :=
  (t.content? .validate Payload.validateFields).any fun v =>
    ((PlanTask.ofPayload (v.part "task")).gaps Catalog.standard).toOption.any
      (·.isEmpty == complete)

/-- Whether a task is decided on a turn for a number of sections that may be. -/
def buildsContext (t : Turn) : Bool :=
  (t.content? .context Payload.contextFields).any fun v =>
    decide ((v.part "sections").items.length ≤ t.service.config.maxSections)

/-- Whether conditions of a group are recorded on a turn that differ from its current ones. -/
def records (t : Turn) : Bool :=
  match Destination.of t.request.method t.request.path with
  | .found (.history .record taskId groupId) =>
    (t.request.read Payload.recordFields).toOption.any fun v =>
      Service.withinLevels Service.recordedLevels (Service.recordedIn v) &&
        (t.service.history.record (taskId, groupId) (Service.recordedIn v)).1
  | _ => false

variable {t : Turn}

theorem evaluates_iff {standing : Standing} :
    t.evaluates standing = true ↔ t.event? = some (.evaluated standing) := by
  have own : t.service.routeEvent? t.outside t.request .evaluate =
      Service.contentEvent? t.request Payload.evaluateFields _ := rfl
  rw [event?_iff_content own rfl, evaluates, Option.any_eq_true]
  refine exists_congr fun v => and_congr_right fun _ => ?_
  cases t.service.reviewOf t.outside v <;> simp [Except.toOption]

theorem validates_iff {complete : Bool} :
    t.validates complete = true ↔ t.event? = some (.validated complete) := by
  have own : t.service.routeEvent? t.outside t.request .validate =
      Service.contentEvent? t.request Payload.validateFields _ := rfl
  rw [event?_iff_content own rfl, validates, Option.any_eq_true]
  refine exists_congr fun v => and_congr_right fun _ => ?_
  cases (PlanTask.ofPayload (v.part "task")).gaps Catalog.standard <;> simp [Except.toOption]

theorem buildsContext_iff : t.buildsContext = true ↔ t.event? = some .contextBuilt := by
  have own : t.service.routeEvent? t.outside t.request .context =
      Service.contentEvent? t.request Payload.contextFields _ := rfl
  rw [event?_iff_content own rfl, buildsContext, Option.any_eq_true]
  refine exists_congr fun v => and_congr_right fun _ => ?_
  split <;> simp_all

theorem records_iff : t.records = true ↔ t.event? = some (.history true) := by
  have kept (v : Value) (key : String × String) :
      (if Service.withinLevels Service.recordedLevels (Service.recordedIn v) then
          some (Event.history (t.service.history.record key (Service.recordedIn v)).1)
        else none) = some (.history true) ↔
      (Service.withinLevels Service.recordedLevels (Service.recordedIn v) &&
        (t.service.history.record key (Service.recordedIn v)).1) = true := by
    split <;> simp_all
  unfold records
  constructor
  · intro recorded
    split at recorded
    · next taskId groupId goes =>
        obtain ⟨v, reading, new⟩ := any_toOption_iff.mp recorded
        rw [event?_of_route goes]
        exact (Service.contentEvent?_eq_some_iff (by simp)).mpr ⟨v, reading, (kept v _).mpr new⟩
    · cases recorded
  · intro happens
    obtain ⟨route, goes, comes, came⟩ := route_of_event happens (by simp)
    cases route with
    | history action taskId groupId =>
        cases action with
        | record =>
            obtain ⟨v, reading, new⟩ := (Service.contentEvent?_eq_some_iff (by simp)).mp came
            rw [goes]
            exact any_toOption_iff.mpr ⟨v, reading, (kept v _).mp new⟩
        | _ => cases came
    | _ => cases comes

/-- What is counted at the end of a turn is no event. -/
theorem countP_closing (t : Turn) {metric : Metric}
    (other : metric.sampleName ∉
      [Metric.requests, .requestDurations, .errors].map Metric.sampleName) :
    t.closing.countP (·.metric.sampleName == metric.sampleName) = 0 := by
  rw [List.countP_eq_zero]
  intro mark member same
  refine other (eq_of_beq same ▸ List.mem_map_of_mem ?_)
  unfold closing at member
  split at member
  · rw [List.mem_singleton.mp member]
    simp
  · rcases List.mem_pair.mp member with rfl | rfl <;> simp

theorem countP_marks {metric : Metric} (values : List String)
    (other : metric.sampleName ∉
      [Metric.requests, .requestDurations, .errors].map Metric.sampleName) :
    t.marks.countP (·.hits metric values) =
      (Event.marksOf t.service.metrics.service t.event?).countP (·.hits metric values) := by
  have closed := Mark.countP_hits_eq_zero (t.countP_closing other) values
  rw [marks, List.countP_append, closed, Nat.add_zero]

/-- A rejection is counted by its code, which no failure has. -/
theorem countP_errors (kind : RejectionKind) :
    t.marks.countP (·.hits .errors [kind.code, t.service.metrics.service]) =
      if t.event? = some (.rejected kind) then 1 else 0 := by
  have closed : t.closing.countP (·.hits .errors [kind.code, t.service.metrics.service]) = 0 := by
    rw [List.countP_eq_zero]
    intro mark member
    unfold closing at member
    split at member
    · rw [List.mem_singleton.mp member, Mark.hits_of_service rfl]
      cases kind <;> decide
    · rcases List.mem_pair.mp member with rfl | rfl
      all_goals exact Bool.false_ne_true
  rw [marks, List.countP_append, closed, Event.countP_errors]
  simp only [Event.code?_eq_iff, Nat.add_zero]

/-- A response says that something new has been recorded unless it has not, or the handling has
failed after that. -/
theorem saysRecorded_eq (t : Turn) : t.response.body.saysRecorded =
    (t.records && t.response.status != 500) := by
  rw [Bool.eq_iff_iff, Bool.and_eq_true, records_iff, bne_iff_ne]
  obtain ⟨ends, -, -⟩ := t.ends
  cases ends with
  | answered happens _ answers response =>
      rw [response, happens]
      simp [answers.recorded, answers.ne_failure]
  | failed _ response =>
      rw [response]
      exact ⟨fun recorded => absurd recorded Bool.false_ne_true, fun both => absurd rfl both.2⟩

/-- A response has the code of a rejection when the request has been rejected so. -/
theorem code?_eq_some_iff {kind : RejectionKind} : t.response.body.code? = some kind.code ↔
    t.event? = some (.rejected kind) ∧ t.response.status ≠ 500 := by
  obtain ⟨ends, -, -⟩ := t.ends
  cases ends with
  | @answered event _ happens _ answers response =>
      have same := @Event.code?_eq_iff (some event) kind
      rw [Option.bind_some] at same
      rw [response, happens, answers.code, same]
      simp [answers.ne_failure]
  | failed _ response =>
      rw [response]
      have apart : (Body.json Service.failure).code? ≠ some kind.code := by
        cases kind <;> decide +kernel
      exact ⟨fun same => absurd same apart, fun both => absurd rfl both.2⟩

/-- A rejection of a request that has come in bytes can be written. -/
theorem IsReceived.writable_reject (h : t.IsReceived) {kind : RejectionKind} {message : String}
    {details : List (String × Value)} (plain : Text.hasHalf message = false)
    (written : Value.entriesWritable details = true) {reply : Reply} {after : Service}
    (rejected : t.service.reject t.requestId kind message details = .ok (reply, after)) :
    reply.isWritable = true := by
  have code : Text.hasHalf kind.code = false := by cases kind <;> decide +kernel
  have names : ∀ name ∈ ["requestId", "code", "message", "details"],
      Text.hasHalf name = false := by decide +kernel
  simp only [List.forall_mem_cons] at names
  rw [Service.reject_eq] at rejected
  cases rejected
  simp [Reply.isWritable, Value.areWritable, Value.isWritable, Value.entriesWritable, names,
    h.requestId, code, plain, written]

theorem dispatch_of_asksUnknownType (asks : t.AsksUnknownType) :
    ∃ name, t.request.query? "type" = some name ∧
      t.service.dispatch t.outside t.requestId t.request =
        t.service.reject t.requestId .validation "Unknown value type"
          [("type", .text name), ("allowed", .texts (ValueType.all.map ValueType.label))] := by
  obtain ⟨goes, unknown⟩ := asks
  obtain ⟨name, given, none⟩ := (Option.any_eq_true _ _).mp unknown
  refine ⟨name, given, ?_⟩
  simp only [Bool.and_eq_true, Bool.not_eq_true', Option.isNone_iff_eq_none] at none
  rw [Service.dispatch, goes]
  simp only [Service.run, Service.dynamicValues, given, none.1, none.2, Bool.false_eq_true,
    if_false]

theorem dispatch_of_asksTooMuch (asks : t.AsksTooMuch) :
    ∃ sections : Nat, t.service.dispatch t.outside t.requestId t.request =
      t.service.reject t.requestId .payload "Too many sections"
        [("sections", .int sections), ("maxSections", .int t.service.config.maxSections)] := by
  obtain ⟨v, content, many⟩ := asks
  obtain ⟨goes, reading⟩ := content?_eq_some_iff.mp content
  refine ⟨(v.part "sections").items.length, ?_⟩
  rw [Service.dispatch, goes]
  simp only [Service.run, Service.withContent, reading, Service.evaluateContext, if_pos many]

/-- No value of a request that is rejected overflows or lies too deep. -/
theorem handled_of_rejected {kind : RejectionKind} (happens : t.event? = some (.rejected kind)) :
    ¬ t.Overflows ∧ ¬ t.TooDeep := by
  obtain ⟨route, goes, comes, -⟩ := route_of_event happens (by simp)
  constructor
  · rintro ⟨v, content, -⟩
    cases goes.symm.trans (content?_eq_some_iff.mp content).1
    cases kind <;> cases comes
  · rintro ⟨action, taskId, groupId, there, -⟩
    cases goes.symm.trans there
    cases kind <;> cases comes

theorem IsReceived.writable_of_rejected (h : t.IsReceived) {kind : RejectionKind}
    (happens : t.event? = some (.rejected kind)) : ¬ t.Unwritable := by
  rintro ⟨reply, after, handled, unwritten⟩
  have written : reply.isWritable = true := by
    rcases rejected_iff.mp happens with ⟨-, asks⟩ | ⟨-, asks⟩
    · obtain ⟨name, given, rejected⟩ := dispatch_of_asksUnknownType asks
      have types : Value.isWritable (.texts (ValueType.all.map ValueType.label)) = true := by
        decide +kernel
      have names : Text.hasHalf "type" = false ∧ Text.hasHalf "allowed" = false := by
        decide +kernel
      refine h.writable_reject (by decide +kernel) ?_ (rejected.symm.trans handled)
      simp [Value.entriesWritable, Value.isWritable, names, types, h.query given]
    · obtain ⟨sections, rejected⟩ := dispatch_of_asksTooMuch asks
      have names : Text.hasHalf "sections" = false ∧ Text.hasHalf "maxSections" = false := by
        decide +kernel
      refine h.writable_reject (by decide +kernel) ?_ (rejected.symm.trans handled)
      simp [Value.entriesWritable, Value.isWritable, names]
  exact absurd (written.symm.trans unwritten) (by decide)

/-- A rejection of a request that has come in bytes does not fail. -/
theorem IsReceived.rejected (h : t.IsReceived) {kind : RejectionKind}
    (happens : t.event? = some (.rejected kind)) : t.response.status ≠ 500 := by
  obtain ⟨ends, -, -⟩ := t.ends
  cases ends with
  | answered _ _ answers response =>
      rw [response]
      exact answers.ne_failure
  | failed broken _ =>
      obtain ⟨near, shallow⟩ := handled_of_rejected happens
      rcases broken with overflows | deep | unwritten
      · exact absurd overflows near
      · exact absurd deep shallow
      · exact absurd unwritten (h.writable_of_rejected happens)

end Turn

namespace Service

/-- What the counts after a session account for. The number of tasks with a verdict is that of the
requests whose review has it, and so on; conditions count as recorded when they are kept, which is
answered unless the answer fails. -/
structure Accounts (first : Service) (calls : List (Surroundings × Request)) : Prop where
  evaluations : ∀ standing : Standing,
    (first.after calls).metrics.count .evaluations [standing.label] =
      (first.turns calls).countP (·.evaluates standing)
  evaluated : (first.after calls).metrics.total .evaluations =
    (first.after calls).metrics.count .businessEvents ["task_evaluated", first.config.serviceName]
  validations : ∀ complete,
    (first.after calls).metrics.count .validations [if complete then "true" else "false"] =
      (first.turns calls).countP (·.validates complete)
  recorded : (first.after calls).metrics.count .businessEvents
      ["condition_history_recorded", first.config.serviceName] =
    (first.turns calls).countP Turn.records
  shown : ∀ t ∈ first.turns calls,
    t.response.body.saysRecorded = (t.records && t.response.status != 500)
  contexts : (first.after calls).metrics.count .businessEvents
      ["validation_context_built", first.config.serviceName] =
    (first.turns calls).countP Turn.buildsContext
  rejections : (∀ t ∈ first.turns calls, t.IsReceived) → ∀ kind : RejectionKind,
    (first.after calls).metrics.count .errors [kind.code, first.config.serviceName] =
      (first.turns calls).countP (·.response.body.code? = some kind.code)
  decided : ∀ t ∈ first.turns calls,
    (∀ v, t.content? .evaluate Payload.evaluateFields = some v →
      ∃ review, t.service.reviewOf t.outside v = .ok review) ∧
    ∀ v, t.content? .validate Payload.validateFields = some v →
      ∃ gaps, (PlanTask.ofPayload (v.part "task")).gaps Catalog.standard = .ok gaps
  configured : ∀ t ∈ first.turns calls, t.service.config = first.config
  increasing : ∀ t ∈ first.turns calls, ∀ metric values,
    t.service.metrics.count metric values ≤ t.after.metrics.count metric values

variable {config : Config} {catalog : Catalog} {calls : List (Surroundings × Request)}

/-- The count of an event that is none at the start is that of the turns on which it happens. -/
theorem count_events {metric : Metric} {values : List String} {p : Turn → Bool}
    (fed : Metric.serviceInfo.sampleName ≠ metric.sampleName)
    (other : metric.sampleName ∉
      [Metric.requests, .requestDurations, .errors].map Metric.sampleName)
    (each : ∀ t ∈ (start config catalog).turns calls,
      (Event.marksOf t.service.metrics.service t.event?).countP (·.hits metric values) =
        if p t then 1 else 0) :
    ((start config catalog).after calls).metrics.count metric values =
      ((start config catalog).turns calls).countP p := by
  rw [tally_after (Metrics.isTally_count metric values) fun t member =>
    (Turn.countP_marks values other).trans (each t member), count_start fed, Nat.zero_add]

/-- Business events are counted under the name that the service is configured with. -/
theorem count_businessEvents {type : String} {p : Turn → Bool}
    (each : ∀ t : Turn, p t = true ↔ t.event?.bind Event.businessType? = some type) :
    ((start config catalog).after calls).metrics.count .businessEvents
        [type, config.serviceName] = ((start config catalog).turns calls).countP p := by
  refine count_events (by decide +kernel) (by decide +kernel) fun t member => ?_
  have service : t.service.metrics.service = config.serviceName :=
    (names_kept _ calls t member).2
  rw [service, Event.countP_businessEvents]
  simp only [each]

/-- Every session accounts for what happened in it. -/
theorem accounts (config : Config) (catalog : Catalog) (calls : List (Surroundings × Request)) :
    (start config catalog).Accounts calls where
  evaluations standing := by
    refine count_events (by decide +kernel) (by decide +kernel) fun t _ => ?_
    rw [Event.countP_evaluations]
    simp only [Turn.evaluates_iff]
  evaluated := by
    have each (t : Turn) : t.marks.countP
        (·.metric.sampleName == Metric.evaluations.sampleName) =
          if t.event?.any Event.isEvaluated then 1 else 0 := by
      rw [Turn.marks, List.countP_append, t.countP_closing (by decide +kernel),
        Event.countP_evaluated, Nat.add_zero]
    refine Eq.trans ?_
      (count_businessEvents fun t => Event.any_isEvaluated_iff t.event?).symm
    rw [tally_after (Metrics.isTally_total .evaluations) fun t _ => each t,
      total_start (by decide +kernel), Nat.zero_add]
  validations complete := by
    refine count_events (by decide +kernel) (by decide +kernel) fun t _ => ?_
    rw [Event.countP_validations]
    simp only [Turn.validates_iff]
  recorded := count_businessEvents fun t =>
    Turn.records_iff.trans (Event.businessType?_eq_iff t.event? (.inr rfl)).symm
  shown t _ := t.saysRecorded_eq
  contexts := count_businessEvents fun t =>
    Turn.buildsContext_iff.trans (Event.businessType?_eq_iff t.event? (.inl rfl)).symm
  rejections received kind := by
    have each : ∀ t ∈ (start config catalog).turns calls,
        t.marks.countP (·.hits .errors [kind.code, config.serviceName]) =
          if decide (t.response.body.code? = some kind.code) then 1 else 0 := by
      intro t member
      have service : t.service.metrics.service = config.serviceName :=
        (names_kept _ calls t member).2
      have answered : t.event? = some (.rejected kind) ↔ t.response.body.code? = some kind.code :=
        ⟨fun happens => Turn.code?_eq_some_iff.mpr ⟨happens, (received t member).rejected happens⟩,
          fun code => (Turn.code?_eq_some_iff.mp code).1⟩
      rw [← service, Turn.countP_errors]
      simp only [answered, decide_eq_true_iff]
    exact (tally_after (Metrics.isTally_count .errors _) each).trans
      (by rw [count_start (by decide +kernel), Nat.zero_add])
  decided t _ := by
    refine ⟨fun v content => ?_, fun v content => ?_⟩
    · have task := Request.task_of_read Payload.evaluateFields_defaultsFit rfl
        (Turn.content?_eq_some_iff.mp content).2
      exact reviewOf_total t.outside t.service (PlanTask.wellTyped_ofPayload task)
    · have task := Request.task_of_read Payload.validateFields_defaultsFit rfl
        (Turn.content?_eq_some_iff.mp content).2
      exact (PlanTask.wellTyped_ofPayload task).gaps_total Catalog.standard
  configured t member := (names_kept _ calls t member).1
  increasing t _ metric values := by
    rw [t.ends.2.2, Metrics.count_marked]
    exact Nat.le_add_right _ _

/-- A condition whose value is a half that stands alone. It can be recorded, but not shown. -/
def recordHalf : Request where
  method := "POST"
  path := "/compliance/history/7/groups/1"
  query := []
  headers := [("Content-Type", "application/json")]
  content := .value (.dict [("conditions", .list [.dict
    [("value", .text (String.singleton (Text.ofUnit 0xd800)))]])])

/-- Values of a type that there is not. -/
def unknownType : Request where
  method := "GET"
  path := "/compliance/dynamic-values"
  query := [("type", "colour")]
  headers := []
  content := .none

/-- What cannot be shown is recorded all the same, and a rejection is counted by its code. -/
theorem accounts_recordHalf :
    (∀ t ∈ (start .fallback Catalog.standard).turns [(quiet, recordHalf), (quiet, unknownType)],
      t.IsReceived) ∧
    ((start .fallback Catalog.standard).after
        [(quiet, recordHalf), (quiet, unknownType)]).metrics.count .businessEvents
          ["condition_history_recorded", Config.fallback.serviceName] = 1 ∧
      ((start .fallback Catalog.standard).after
        [(quiet, recordHalf), (quiet, unknownType)]).metrics.count .errors
          ["VALIDATION_ERROR", Config.fallback.serviceName] = 1 := by
  have received : ∀ t ∈ (start .fallback Catalog.standard).turns
      [(quiet, recordHalf), (quiet, unknownType)], t.IsReceived := by
    unfold Turn.IsReceived
    decide +kernel
  have counts := accounts .fallback Catalog.standard [(quiet, recordHalf), (quiet, unknownType)]
  refine ⟨received, counts.recorded.trans ?_, (counts.rejections received .validation).trans ?_⟩
  · decide +kernel
  · decide +kernel

/-- Conditions count as recorded although no answer says so. -/
theorem recorded_unsaid : ¬ ∀ config catalog calls,
    ((start config catalog).after calls).metrics.count .businessEvents
        ["condition_history_recorded", config.serviceName] =
      ((start config catalog).turns calls).countP (·.response.body.saysRecorded) := by
  intro said
  exact absurd (said .fallback Catalog.standard [(quiet, recordHalf)]) (by decide +kernel)

end Service
end CourseAudit
