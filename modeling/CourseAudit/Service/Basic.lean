import CourseAudit.Catalog.Coverage
import CourseAudit.History
import CourseAudit.Payload.Domain
import CourseAudit.Payload.Requests
import CourseAudit.Review.Context
import CourseAudit.Review.Page
import CourseAudit.Service.Config
import CourseAudit.Service.Metrics
import CourseAudit.Service.Rejection
import CourseAudit.Service.Request
import CourseAudit.Service.Route

/-!
The service: it answers requests one after the other, and what one request leaves behind is the
history of conditions and the counts of what happened.
-/
namespace CourseAudit

/-- The catalog serves the editor; tasks are always checked and decided by the standard one. -/
structure Service where
  config : Config
  catalog : Catalog
  history : History (String × String)
  metrics : Metrics

/-- What the service learns from outside with a request: an id for a request without one, the time
since the start, the state of the program, and the date. -/
structure Surroundings where
  freshId : String
  uptime : Value
  commit : String
  today : CivilDate

namespace Service

def start (config : Config) (catalog : Catalog) : Service where
  config := config
  catalog := catalog
  history := ⟨some config.historyLimit, []⟩
  metrics := Metrics.start config.serviceName

/-- An answer with the service after it, or a failure of which nothing is known but what it leaves
behind. -/
abbrev Handled := Except Service (Reply × Service)

def ok (v : Value) : Reply := ⟨200, .json v.finite, []⟩

def handled (s : Service) (reply : Reply) : Handled := .ok (reply, s)

/-- Counts a rejection and answers it to the request of an id. -/
def reject (s : Service) (requestId : String) (kind : RejectionKind) (message : String)
    (details : List (String × Value)) : Handled :=
  let rejection := Rejection.of kind (.text message) (.dict details)
  let counted := { s with metrics := s.metrics.errorOccurred kind.code }
  match rejection.response (.text requestId) with
  | .ok body => counted.handled ⟨rejection.status, .json body, []⟩
  | .error _ => .error counted

/-- The date of an evaluation: the one asked for, the one that is set, or today's. -/
def dayOf (outside : Surroundings) (s : Service) (requested : Value) : CivilDate :=
  match requested with
  | .date d => d
  | _ => s.config.fixedToday.getD outside.today

def contextOf (outside : Surroundings) (s : Service) (requested : Value) : EvaluationContext :=
  let today := s.dayOf outside requested
  EvaluationContext.create today (DynamicValue.table s.config.texts today)

def root (s : Service) : Handled :=
  s.handled ⟨200, .json (.dict [("service", .text "compliance"),
    ("message", .text "Course Compliance - Compliance Service"), ("version", .text "1.0.0"),
    ("schemaVersion", s.catalog.version),
    ("capabilities", .texts ["condition_evaluation", "configuration_validation",
      "validation_context", "condition_history"])]), []⟩

/-- A service is healthy when every property of its catalog can be read. -/
def health (outside : Surroundings) (s : Service) : Handled :=
  let name : Value := .text s.config.serviceName
  if s.catalog.coverageProblems.isEmpty then
    { s with metrics := s.metrics.healthChecked "ok" }.handled
      (ok (.dict [("service", name), ("status", .text "ok"), ("uptimeSeconds", outside.uptime),
        ("dependencies", .dict [("property_schema", .text "ok")]), ("version", .text "1.0.0"),
        ("commit", .text outside.commit)]))
  else
    { s with metrics := s.metrics.healthChecked "error" }.handled
      ⟨503, .json (.dict [("service", name), ("status", .text "error"),
        ("error", .text "Property resolvers out of sync with schema")]), []⟩

/-- The dynamic values, all of them or those of one type. -/
def dynamicValues (outside : Surroundings) (s : Service) (requestId : String) (r : Request) :
    Handled :=
  let table := DynamicValue.table s.config.texts (s.dayOf outside .null)
  let answer (shown : List DynamicValue) : Handled :=
    s.handled (ok (.dict [("dynamicValues", .list (shown.map DynamicValue.toValue))]))
  match r.query? "type" with
  | none => answer table
  | some name =>
    if name.isEmpty then answer table
    else
      match ValueType.ofLabel? (Text.lower name) with
      | some type => answer (table.filter (·.valueType == type))
      | none =>
        s.reject requestId .validation "Unknown value type"
          [("type", .text name),
            ("allowed", .texts (ValueType.all.map ValueType.label))]

/-- Runs a handler on the content of a request, or answers what is wrong with it. -/
def withContent (s : Service) (r : Request) (fields : Payload.Fields) (run : Value → Handled) :
    Handled :=
  match r.read fields with
  | .ok v => run v
  | .error reply => s.handled reply

/-- A missing field as it is answered. -/
def gapValue (g : Gap) : Value :=
  .dict [("groupId", g.groupId), ("conditionId", g.conditionId),
    ("subConditionId", g.subConditionId), ("field", .text g.kind.field),
    ("message", .text g.kind.message)]

/-- Whether a task is complete, what is missing of it, and how it may be shown. The check is counted
as soon as the missing fields are known. -/
def validate (s : Service) (t : PlanTask) : Handled :=
  match t.gaps Catalog.standard with
  | .error _ => .error s
  | .ok gaps =>
    let valid := gaps.isEmpty
    let counted :=
      { s with metrics := s.metrics.add .validations [if valid then "true" else "false"] 1 }
    match t.isSavable Catalog.standard, t.allowedDisplays s.catalog none with
    | .ok savable, .ok allowed =>
      counted.handled (ok (.dict [("valid", .bool valid), ("savable", .bool savable),
        ("issues", .list (gaps.map gapValue)),
        ("allowedDisplayTypes", .texts (allowed.map DisplayType.label))]))
    | _, _ => .error counted

/-- An outcome as it is answered. -/
def outcomeEntries (o : Outcome) : List (String × Value) :=
  [("passes", .bool o.passes), ("displayValue", .text o.display),
    ("resultType", o.presentation.type), ("customName", o.presentation.customName),
    ("icon", o.presentation.icon)]

def reviewValue (r : Review) : Value :=
  let data := match r.data with
    | some d => .dict (outcomeEntries d.outcome ++
        [("isManualOverride", .bool d.isOverride), ("isManualTask", .bool d.isManual)])
    | none => .null
  .dict [("status", .text r.status.label), ("data", data)]

/-- The word that a review is counted under: the verdict, or why there is none. -/
def outcomeWord (r : Review) : String :=
  match r.data with
  | some d => if d.outcome.passes then "pass" else "fail"
  | none => r.status.label

def verdictOf (v : Value) : Option Verdict :=
  v.asText?.bind fun s => Verdict.all.find? (·.label == s)

/-- Decides a task for a section. -/
def evaluate (outside : Surroundings) (s : Service) (v : Value) : Handled :=
  let t := PlanTask.ofPayload (v.part "task")
  let subject : Slot Section :=
    if (v.part "section").isNull then .other .null else Section.ofPayload (v.part "section")
  let context := s.contextOf outside (v.part "today")
  let timed := { s with metrics := s.metrics.add .evaluationDurations ["single"] 1 }
  match t.review Catalog.standard context subject (verdictOf (v.part "override")) with
  | .error _ => .error timed
  | .ok review =>
    let counts := timed.metrics.add .evaluations [outcomeWord review] 1
    { timed with metrics := counts.businessEvent "task_evaluated" }.handled
      (ok (reviewValue review))

def entryValue (e : ContextEntry) : Value :=
  .dict [("id", .text e.id), ("name", e.name), ("passes", .bool e.outcome.passes),
    ("label", .text e.label.text), ("sectionId", e.sectionId),
    ("result", .dict (outcomeEntries e.outcome))]

/-- A page of entries, with the verdict that they were chosen by and the number of all. -/
def pageValue (mode : Verdict) (evaluated : Nat) (p : Page ContextEntry) : Value :=
  .dict [("entries", .list (p.entries.map entryValue)), ("page", .int p.page),
    ("pageSize", .int p.pageSize), ("total", .int p.total), ("rangeLabel", .text p.rangeLabel),
    ("hasPrevious", .bool p.hasPrevious), ("hasNext", .bool p.hasNext),
    ("mode", .text mode.label), ("evaluated", .int evaluated)]

def intOr (fallback : Int) : Value → Int
  | .int i => i
  | _ => fallback

/-- Decides a task for many sections, unless there are too many of them. -/
def evaluateContext (outside : Surroundings) (s : Service) (requestId : String) (v : Value) :
    Handled :=
  let payloads := (v.part "sections").items
  if s.config.maxSections < payloads.length then
    s.reject requestId .payload "Too many sections"
      [("sections", .int payloads.length), ("maxSections", .int s.config.maxSections)]
  else
    let t := PlanTask.ofPayload (v.part "task")
    let context := s.contextOf outside (v.part "today")
    let timed := { s with metrics := s.metrics.add .evaluationDurations ["context"] 1 }
    match t.contextEntries Catalog.standard context (.ofList (payloads.map Section.ofPayload)) with
    | .error _ => .error timed
    | .ok entries =>
      let mode := (verdictOf (v.part "mode")).getD .fail
      let page := Page.ofList (filterEntries mode entries) (intOr 1 (v.part "page"))
        (intOr s.config.pageSize (v.part "limit"))
      { timed with metrics := timed.metrics.businessEvent "validation_context_built" }.handled
        (ok (pageValue mode entries.length page))

/-- The state of a group: its conditions where they are asked for, and where it can go. -/
def historyValue (s : Service) (key : String × String) (conditions : Option Snapshot)
    (recorded : Value) : Value :=
  let shown := match conditions with
    | some snapshot => .list (snapshot.map Condition.payload)
    | none => .null
  .dict [("taskId", .text key.1), ("groupId", .text key.2), ("conditions", shown),
    ("canUndo", .bool (s.history.canUndo key)), ("canRedo", .bool (s.history.canRedo key)),
    ("recorded", recorded)]

/-- Values of conditions that lie deeper within one another are not answered. -/
def answeredLevels : Nat := 255

/-- Values of conditions that lie deeper within one another are not recorded. -/
def recordedLevels : Nat := 478

/-- Whether the values of conditions do not lie too deep within one another. -/
def withinLevels (limit : Nat) (conditions : Snapshot) : Bool :=
  conditions.all fun c =>
    c.value.levels ≤ limit && c.subConditions.records.all fun sub => sub.value.levels ≤ limit

/-- Answers the state of a group after its history has moved. -/
def historyMoved (s : Service) (key : String × String)
    (moved : Option Snapshot × History (String × String)) (recorded : Value) : Handled :=
  let after := { s with history := moved.2 }
  if moved.1.all (withinLevels answeredLevels) then
    after.handled (ok (after.historyValue key moved.1 recorded))
  else .error after

/-- Records the conditions of a group after an edit. -/
def recordHistory (s : Service) (key : String × String) (v : Value) : Handled :=
  let snapshot := (v.part "conditions").items.map Condition.ofPayload
  if withinLevels recordedLevels snapshot then
    let (recorded, history) := s.history.record key snapshot
    let counted := if recorded then
      { s with metrics := s.metrics.businessEvent "condition_history_recorded" } else s
    counted.historyMoved key (history.current key, history) (.bool recorded)
  else .error s

def runHistory (s : Service) (r : Request) (key : String × String) : HistoryAction → Handled
  | .current => s.historyMoved key (s.history.current key, s.history) .null
  | .record => s.withContent r Payload.recordFields (s.recordHistory key)
  | .undo => s.historyMoved key (s.history.undo key) .null
  | .redo => s.historyMoved key (s.history.redo key) .null
  | .clear => s.historyMoved key (none, s.history.clear key) .null

/-- What is answered where there is nothing. -/
def notFound : Reply := detailReply 404 "Not Found"

/-- Whether a place is there. The interface always is, other pages only where the manual is
shown. -/
def hasSite (s : Service) : Site → Bool
  | .manual .interface => true
  | .manual _ => s.config.showsManual
  | _ => true

/-- Does what a request asks for. -/
def run (outside : Surroundings) (s : Service) (requestId : String) (r : Request) :
    Route → Handled
  | .root => s.root
  | .health => s.health outside
  | .metrics => s.handled ⟨200, .metrics s.metrics, []⟩
  | .catalog => s.handled ⟨200, .json s.catalog.toValue, []⟩
  | .dynamicValues => s.dynamicValues outside requestId r
  | .validate => s.withContent r Payload.validateFields fun v =>
      s.validate (PlanTask.ofPayload (v.part "task"))
  | .evaluate => s.withContent r Payload.evaluateFields (s.evaluate outside)
  | .context => s.withContent r Payload.contextFields (s.evaluateContext outside requestId)
  | .history action taskId groupId => s.runHistory r (taskId, groupId) action
  | .manual page =>
      s.handled (if s.hasSite (.manual page) then ⟨200, .manual page, []⟩ else notFound)

/-- Answers a request by where it goes. -/
def dispatch (outside : Surroundings) (s : Service) (requestId : String) (r : Request) : Handled :=
  match Destination.of r.method r.path with
  | .found route => s.run outside requestId r route
  | .wrongMethod site =>
    s.handled (if s.hasSite site then detailReply 405 "Method Not Allowed" else notFound)
  | .elsewhere site => s.handled (if s.hasSite site then ⟨307, .text "", []⟩ else notFound)
  | .nowhere => s.handled notFound

/-- The header that carries the id of a request and of its response. -/
def idHeader : String := "x-request-id"

/-- What is answered to a request whose handling failed. -/
def failure : Value :=
  .dict [("code", .text "INTERNAL_ERROR"), ("message", .text "Internal server error"),
    ("details", .dict [])]

/-- The service after a failure, which is counted as an error. -/
def failed (after : Service) : Response × Service :=
  (⟨500, none, .json failure⟩,
    { after with metrics := after.metrics.errorOccurred "INTERNAL_ERROR" })

/-- Answers one request. An answered request is counted under its method, path and status; a failure
is only counted as an error, and its response has no id. An answer that cannot be written is a
failure too. -/
def step (outside : Surroundings) (s : Service) (r : Request) : Response × Service :=
  let requestId := (r.header? idHeader).getD outside.freshId
  match s.dispatch outside requestId r with
  | .ok (reply, after) =>
    if reply.isWritable then
      (⟨reply.status, some requestId, reply.body⟩,
        { after with metrics :=
            after.metrics.requestAnswered r.method r.countedPath (toString reply.status) })
    else failed after
  | .error after => failed after

/-- Answers requests in order. -/
def steps (outside : Surroundings) (s : Service) : List Request → List Response × Service
  | [] => ([], s)
  | r :: rest =>
    let (response, after) := s.step outside r
    let (responses, final) := steps outside after rest
    (response :: responses, final)

end Service
end CourseAudit
