import CourseAudit.Proofs.Counting
import CourseAudit.Proofs.Session
import CourseAudit.Proofs.Totality

/-!
What happens on a turn. A request amounts to one event, which its content and the state of the
service tell; how the event is counted and what status answers it are told by the event alone.
-/
namespace CourseAudit

/-- What a reviewer sees of a task, as it is counted. -/
inductive Standing
  | pass | fail | noSection | invalid
deriving DecidableEq, Repr

def Standing.label : Standing → String
  | .pass => "pass"
  | .fail => "fail"
  | .noSection => "no_section"
  | .invalid => "invalid"

/-- Reviews with a verdict count by it, whether it was evaluated or given by hand. -/
def Review.standing (r : Review) : Standing :=
  match r.status with
  | .evaluated | .manual => if r.data.any (·.outcome.passes) then .pass else .fail
  | .noSection => .noSection
  | .invalid => .invalid

/-- What a request amounts to. -/
inductive Event
  /-- The service, its catalog, its counts or its manual are told about. -/
  | told
  | checked (healthy : Bool)
  /-- Dynamic values are told about. -/
  | listed
  | validated (complete : Bool)
  | evaluated (standing : Standing)
  | contextBuilt
  /-- The history of a group is shown, after it has kept something new or has not. -/
  | history (recorded : Bool)
  /-- The request is accepted, but asks for something that the service turns down. -/
  | rejected (kind : RejectionKind)
  /-- There is no such place, or the content is not what is asked for there. -/
  | turnedAway
deriving DecidableEq, Repr

namespace Event

/-- What an event is counted as in a service of a name. -/
def marks (service : String) : Event → List Mark
  | .checked healthy => [⟨.healthChecks, [if healthy then "ok" else "error"]⟩]
  | .validated complete => [⟨.validations, [if complete then "true" else "false"]⟩]
  | .evaluated standing =>
    [⟨.evaluationDurations, ["single"]⟩, ⟨.evaluations, [standing.label]⟩,
      ⟨.businessEvents, ["task_evaluated", service]⟩]
  | .contextBuilt =>
    [⟨.evaluationDurations, ["context"]⟩, ⟨.businessEvents, ["validation_context_built", service]⟩]
  | .history true => [⟨.businessEvents, ["condition_history_recorded", service]⟩]
  | .rejected kind => [⟨.errors, [kind.code, service]⟩]
  | .told | .listed | .history false | .turnedAway => []

/-- The statuses that an event is answered with. -/
def statuses : Event → List Nat
  | .checked false => [503]
  | .rejected _ => [400]
  | .turnedAway => [307, 400, 404, 405, 422]
  | _ => [200]

/-- The code that an event is answered with. -/
def code? : Event → Option String
  | .rejected kind => some kind.code
  | _ => none

/-- Whether an event comes of a request about tasks, conditions or their values that is of the form
it has to be. -/
def isAccepted : Event → Bool
  | .told | .checked _ | .turnedAway => false
  | _ => true

/-- Whether an event may come of a request that goes to a route. -/
def comesOf : Event → Route → Bool
  | .told, .root | .told, .metrics | .told, .catalog | .told, .manual _ => true
  | .checked _, .health => true
  | .listed, .dynamicValues | .rejected .validation, .dynamicValues => true
  | .validated _, .validate => true
  | .evaluated _, .evaluate => true
  | .contextBuilt, .context | .rejected .payload, .context => true
  | .history true, .history .record _ _ | .history false, .history .. => true
  | .turnedAway, _ => true
  | _, _ => false

/-- The only route that an event comes of, where there is just one. -/
def route? : Event → Option Route
  | .checked _ => some .health
  | .listed | .rejected .validation => some .dynamicValues
  | .validated _ => some .validate
  | .evaluated _ => some .evaluate
  | .contextBuilt | .rejected .payload => some .context
  | _ => none

theorem eq_of_route? {event : Event} {route other : Route} (sole : event.route? = some route)
    (comes : event.comesOf other = true) : other = route := by
  cases event with
  | rejected kind => cases kind <;> cases other <;> simp_all [route?, comesOf]
  | _ => cases other <;> simp_all [route?, comesOf]

/-- What is counted of an event, if there is one. -/
def marksOf (service : String) : Option Event → List Mark
  | some event => event.marks service
  | none => []

end Event

/-- Whether a value is a plain yes. -/
def Value.isYes : Value → Bool
  | .bool b => b
  | _ => false

namespace Body

/-- What a body says under a name. -/
def field? (name : String) : Body → Option Value
  | .json (.dict entries) => Value.get? entries name
  | _ => none

/-- The code in a body. -/
def code? (b : Body) : Option String := (b.field? "code").bind Value.asText?

/-- Whether a body says that something new has been recorded. -/
def saysRecorded (b : Body) : Bool := (b.field? "recorded").any Value.isYes

end Body

/-- Whether a request names a type that values do not have. -/
def Request.namesUnknownType (r : Request) : Bool :=
  (r.query? "type").any fun name =>
    !name.isEmpty && (ValueType.ofLabel? (Text.lower name)).isNone

namespace Service

/-- The review that the content of a request asks for. -/
def reviewOf (outside : Surroundings) (s : Service) (v : Value) : Except Fault Review :=
  let subject : Slot Section :=
    if (v.part "section").isNull then .other .null else Section.ofPayload (v.part "section")
  (PlanTask.ofPayload (v.part "task")).review Catalog.standard
    (s.contextOf outside (v.part "today")) subject (verdictOf (v.part "override"))

/-- The conditions in the content of a request to record. -/
def recordedIn (v : Value) : Snapshot := (v.part "conditions").items.map Condition.ofPayload

/-- What the content of a request amounts to, unless it is not of the form. -/
def contentEvent? (r : Request) (fields : Payload.Fields) (event? : Value → Option Event) :
    Option Event :=
  match r.read fields with
  | .error _ => some .turnedAway
  | .ok v => event? v

/-- What a request about the history of a group amounts to. Conditions that lie too deep are not
recorded. -/
def historyEvent? (s : Service) (r : Request) (key : String × String) :
    HistoryAction → Option Event
  | .record => contentEvent? r Payload.recordFields fun v =>
      if withinLevels recordedLevels (recordedIn v) then
        some (.history (s.history.record key (recordedIn v)).1)
      else none
  | _ => some (.history false)

/-- What a request amounts to by where it goes. Nothing comes of it when its handling fails before
anything has been counted. -/
def routeEvent? (outside : Surroundings) (s : Service) (r : Request) : Route → Option Event
  | .root | .metrics | .catalog => some .told
  | .health => some (.checked s.catalog.coverageProblems.isEmpty)
  | .dynamicValues => some (if r.namesUnknownType then .rejected .validation else .listed)
  | .validate => contentEvent? r Payload.validateFields fun v =>
      ((PlanTask.ofPayload (v.part "task")).gaps Catalog.standard).toOption.map fun gaps =>
        .validated gaps.isEmpty
  | .evaluate => contentEvent? r Payload.evaluateFields fun v =>
      (s.reviewOf outside v).toOption.map fun review => .evaluated review.standing
  | .context => contentEvent? r Payload.contextFields fun v =>
      some (if s.config.maxSections < (v.part "sections").items.length then .rejected .payload
        else .contextBuilt)
  | .history action taskId groupId => s.historyEvent? r (taskId, groupId) action
  | .manual page => some (if s.hasSite (.manual page) then .told else .turnedAway)

/-- Whether the conditions that a group would be shown with lie too deep, or those to record do. -/
def tooDeep (s : Service) (r : Request) (key : String × String) : HistoryAction → Bool
  | .current => !(s.history.current key).all (withinLevels answeredLevels)
  | .undo => !(s.history.undo key).1.all (withinLevels answeredLevels)
  | .redo => !(s.history.redo key).1.all (withinLevels answeredLevels)
  | .clear => false
  | .record =>
    match r.read Payload.recordFields with
    | .error _ => false
    | .ok v =>
      !withinLevels recordedLevels (recordedIn v) ||
        !((s.history.record key (recordedIn v)).2.current key).all (withinLevels answeredLevels)

/-- Whether the handling of a request fails where it goes. -/
def FailsAt (s : Service) (r : Request) : Route → Prop
  | .validate => ∃ v, r.read Payload.validateFields = .ok v ∧
      (PlanTask.ofPayload (v.part "task")).Overflows s.catalog
  | .history action taskId groupId => s.tooDeep r (taskId, groupId) action = true
  | _ => False

end Service

namespace Turn

/-- What happens on a turn. -/
def event? (t : Turn) : Option Event :=
  match Destination.of t.request.method t.request.path with
  | .found route => t.service.routeEvent? t.outside t.request route
  | _ => some .turnedAway

/-- The content of a request that goes to a route, when it is of the form. -/
def content? (route : Route) (fields : Payload.Fields) (t : Turn) : Option Value :=
  if Destination.of t.request.method t.request.path = .found route then
    (t.request.read fields).toOption
  else none

/-- A task is to be checked whose one value is an integer beyond all numbers. -/
def Overflows (t : Turn) : Prop :=
  ∃ v, t.content? .validate Payload.validateFields = some v ∧
    (PlanTask.ofPayload (v.part "task")).Overflows t.service.catalog

/-- Conditions of a group lie too deep to be recorded or shown. -/
def TooDeep (t : Turn) : Prop :=
  ∃ action taskId groupId,
    Destination.of t.request.method t.request.path = .found (.history action taskId groupId) ∧
      t.service.tooDeep t.request (taskId, groupId) action = true

theorem content?_eq_some_iff {t : Turn} {route : Route} {fields : Payload.Fields} {v : Value} :
    t.content? route fields = some v ↔
      Destination.of t.request.method t.request.path = .found route ∧
        t.request.read fields = .ok v := by
  unfold content?
  split
  · next goes => cases t.request.read fields <;> simp [goes, Except.toOption]
  · next other => simp [other]

end Turn

namespace Service

variable {outside : Surroundings} {s : Service} {r : Request} {fields : Payload.Fields}
  {event? : Value → Option Event} {event : Event}

/-- Content comes to an event other than that it is not of the form exactly when it is, and comes to
the event. -/
theorem contentEvent?_eq_some_iff (other : event ≠ .turnedAway) :
    contentEvent? r fields event? = some event ↔
      ∃ v, r.read fields = .ok v ∧ event? v = some event := by
  unfold contentEvent?
  cases r.read fields with
  | ok v => simp
  | error reply => simpa using other.symm

/-- Events come of their routes. -/
theorem comesOf_of_routeEvent? {route : Route}
    (h : s.routeEvent? outside r route = some event) : event.comesOf route = true := by
  have content {fields : Payload.Fields} {event? : Value → Option Event}
      (h : contentEvent? r fields event? = some event)
      (each : ∀ v, event? v = some event → event.comesOf route = true) :
      event.comesOf route = true := by
    by_cases away : event = .turnedAway
    · rw [away]
      cases route <;> rfl
    · obtain ⟨v, -, same⟩ := (contentEvent?_eq_some_iff away).mp h
      exact each v same
  cases route with
  | root | health | metrics | catalog =>
      cases h
      rfl
  | dynamicValues =>
      dsimp only [routeEvent?] at h
      split at h
      all_goals
        cases h
        rfl
  | validate =>
      refine content h fun v same => ?_
      obtain ⟨gaps, -, rfl⟩ := Option.map_eq_some_iff.mp same
      rfl
  | evaluate =>
      refine content h fun v same => ?_
      obtain ⟨review, -, rfl⟩ := Option.map_eq_some_iff.mp same
      rfl
  | context =>
      refine content h fun v same => ?_
      split at same
      all_goals
        cases same
        rfl
  | history action taskId groupId =>
      cases action with
      | record =>
          refine content h fun v same => ?_
          split at same
          · cases same
            cases (s.history.record (taskId, groupId) (recordedIn v)).1 <;> rfl
          · cases same
      | _ =>
          cases h
          rfl
  | manual page =>
      cases h
      cases s.hasSite (.manual page) <;> rfl

end Service

namespace Turn

variable {t : Turn} {route : Route} {event : Event}

/-- What happens on a turn has come of the route that the request goes to. -/
theorem route_of_event (happens : t.event? = some event) (other : event ≠ .turnedAway) :
    ∃ route, Destination.of t.request.method t.request.path = .found route ∧
      event.comesOf route = true ∧
        t.service.routeEvent? t.outside t.request route = some event := by
  unfold event? at happens
  cases goes : Destination.of t.request.method t.request.path with
  | found route =>
      rw [goes] at happens
      exact ⟨route, rfl, Service.comesOf_of_routeEvent? happens, happens⟩
  | wrongMethod | elsewhere | nowhere =>
      rw [goes] at happens
      exact absurd (Option.some.inj happens).symm other

theorem event?_of_route (goes : Destination.of t.request.method t.request.path = .found route) :
    t.event? = t.service.routeEvent? t.outside t.request route := by
  rw [event?, goes]

/-- A handling fails for a value that overflows or for conditions that lie too deep. -/
theorem failsAt_iff (goes : Destination.of t.request.method t.request.path = .found route) :
    t.service.FailsAt t.request route ↔ t.Overflows ∨ t.TooDeep := by
  cases route <;> simp [Service.FailsAt, Overflows, TooDeep, content?_eq_some_iff, goes]

/-- An event of one route has come of the content of a request that goes there. -/
theorem event?_iff_content {fields : Payload.Fields} {event? : Value → Option Event}
    (own : t.service.routeEvent? t.outside t.request route =
      Service.contentEvent? t.request fields event?)
    (sole : event.route? = some route) :
    t.event? = some event ↔ ∃ v, t.content? route fields = some v ∧ event? v = some event := by
  have other : event ≠ .turnedAway := by
    rintro rfl
    cases sole
  simp only [content?_eq_some_iff, and_assoc]
  constructor
  · intro happens
    obtain ⟨there, goes, comes, came⟩ := route_of_event happens other
    cases Event.eq_of_route? sole comes
    rw [own, Service.contentEvent?_eq_some_iff other] at came
    exact came.imp fun v found => ⟨goes, found⟩
  · rintro ⟨v, goes, reading, came⟩
    rw [event?_of_route goes, own, Service.contentEvent?_eq_some_iff other]
    exact ⟨v, reading, came⟩

end Turn
end CourseAudit
