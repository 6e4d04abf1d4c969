import CourseAudit.Value.Coercion
import CourseAudit.Value.Vocabulary
import CourseAudit.Value.Written

/-!
Counters of a service. A metric has a fixed set of labels, and for every combination of label
values that has come up a sample counts how often it did. Counts never decrease.
-/
namespace CourseAudit

/-- How a metric is fed: by events, by durations, or once with facts about the service. -/
inductive MetricKind
  | counter | histogram | info
deriving DecidableEq, Repr

def MetricKind.label : MetricKind → String
  | .counter => "Counter"
  | .histogram => "Histogram"
  | .info => "Info"

/-- What a metric of a kind is where all metrics are described. -/
def MetricKind.describedAs : MetricKind → String
  | .counter => "counter"
  | .histogram => "histogram"
  | .info => "gauge"

/-- A metric with what it tells and the names of its labels. -/
structure Metric where
  name : String
  kind : MetricKind
  help : String
  labels : List String
deriving DecidableEq, Repr

/-- The name under which the counts of a metric are answered. -/
def Metric.sampleName (m : Metric) : String :=
  match m.kind with
  | .counter => m.name
  | .histogram => m.name ++ "_count"
  | .info => m.name ++ "_info"

namespace Metric

def serviceInfo : Metric := ⟨"service_info", .info, "Service information", []⟩

def requests : Metric :=
  ⟨"http_requests_total", .counter, "Total HTTP requests", ["method", "endpoint", "status_code"]⟩

def requestDurations : Metric :=
  ⟨"http_request_duration_seconds", .histogram, "HTTP request duration in seconds",
    ["method", "endpoint"]⟩

def healthChecks : Metric :=
  ⟨"health_check_total", .counter, "Total health check requests", ["status"]⟩

def errors : Metric := ⟨"errors_total", .counter, "Total errors", ["error_type", "service"]⟩

def businessEvents : Metric :=
  ⟨"business_events_total", .counter, "Total business events", ["event_type", "service"]⟩

def evaluations : Metric :=
  ⟨"task_evaluations_total", .counter, "Total plan task evaluations", ["outcome"]⟩

def evaluationDurations : Metric :=
  ⟨"task_evaluation_duration_seconds", .histogram, "Plan task evaluation duration in seconds",
    ["mode"]⟩

def validations : Metric :=
  ⟨"configuration_validations_total", .counter, "Total condition configuration validations",
    ["valid"]⟩

/-- The metrics of every service. -/
def common : List Metric :=
  [serviceInfo, requests, requestDurations, healthChecks, errors, businessEvents]

/-- The name of the service that evaluates tasks. -/
def complianceName : String := "compliance"

/-- Tasks are only counted by the service that evaluates them. -/
def all (service : String) : List Metric :=
  if service = complianceName then common ++ [evaluations, evaluationDurations, validations]
  else common

end Metric

/-- How often one combination of label values has come up. -/
structure Sample where
  name : String
  labels : List (String × String)
  count : Nat
deriving DecidableEq, Repr

/-- The samples of a service in the order in which they came up first. -/
structure Metrics where
  service : String
  samples : List Sample
deriving DecidableEq, Repr

namespace Metrics

/-- Adds to the sample of a combination of label values, which comes up now if it did not before. -/
def addTo (name : String) (labels : List (String × String)) (n : Nat) : List Sample → List Sample
  | [] => [⟨name, labels, n⟩]
  | s :: rest =>
    if s.name = name ∧ s.labels = labels then { s with count := s.count + n } :: rest
    else s :: addTo name labels n rest

def add (m : Metrics) (metric : Metric) (values : List String) (n : Nat) : Metrics :=
  { m with samples := addTo metric.sampleName (metric.labels.zip values) n m.samples }

/-- The count of a combination of label values. -/
def count (m : Metrics) (metric : Metric) (values : List String) : Nat :=
  ((m.samples.find? fun s =>
    s.name == metric.sampleName && s.labels == metric.labels.zip values).map Sample.count).getD 0

/-- A service begins with the facts about itself. -/
def start (service : String) : Metrics :=
  ⟨service, [⟨Metric.serviceInfo.sampleName, [("service", service), ("version", "1.0.0")], 1⟩]⟩

def metric? (m : Metrics) (name : String) : Option Metric :=
  (Metric.all m.service).find? (·.name == name)

/-- A request that was answered, under its method, path and status. -/
def requestAnswered (m : Metrics) (method path : String) (status : String) : Metrics :=
  (m.add .requests [method, path, status] 1).add .requestDurations [method, path] 1

/-- How often a duration counts: once, or not at all when it is no number to compare with. An
integer has to be in the range of numbers. -/
def durationCount : Value → Except Fault Nat
  | .float (.nan _) => .ok 0
  | .float _ | .bool _ => .ok 1
  | .int i => (Binary64.ofInt? i).map fun _ => 1
  | _ => .error .mismatch

/-- Counts under label values, unless one of them cannot be written. -/
def addWritten (m : Metrics) (metric : Metric) (values : List Value) :
    Except Fault Unit × Metrics :=
  match values.mapM Value.write with
  | .ok texts => (.ok (), m.add metric texts 1)
  | .error f => (.error f, m)

/-- A request given by values, with how long it took. The status is written first. -/
def requestTimed (m : Metrics) (method path status duration : Value) :
    Except Fault Unit × Metrics :=
  let texts := do
    let status ← status.write
    return (← method.write, ← path.write, status)
  match texts with
  | .error f => (.error f, m)
  | .ok (method, path, status) =>
    let counted := m.add .requests [method, path, status] 1
    match durationCount duration with
    | .ok n => (.ok (), counted.add .requestDurations [method, path] n)
    | .error f => (.error f, counted.add .requestDurations [method, path] 0)

def healthChecked (m : Metrics) (status : String) : Metrics := m.add .healthChecks [status] 1

def errorOccurred (m : Metrics) (type : String) : Metrics := m.add .errors [type, m.service] 1

def businessEvent (m : Metrics) (type : String) : Metrics :=
  m.add .businessEvents [type, m.service] 1

/-- An event of a service, which is this one unless another is named. -/
def eventOf (metric : Metric) (m : Metrics) (type service : Value) : Except Fault Unit × Metrics :=
  m.addWritten metric [type, if service.isSet then service else .text m.service]

/-- The values of a metric's labels out of named ones, which have to be exactly those. -/
def labelValues (metric : Metric) (given : List (String × Value)) :
    Except Fault (List String) := do
  if metric.labels.isEmpty || metric.labels.length != given.length then throw .meaningless
  match metric.labels.mapM (Value.get? given) with
  | none => throw .meaningless
  | some values => values.mapM Value.write

/-- The metric that a value names. -/
def metricOf (m : Metrics) (name : Value) : Except Fault (Option Metric) :=
  name.key.map fun found => found.bind m.metric?

/-- The names that the parts of feeding a metric go by, which labels cannot have. -/
def takenNames : MetricKind → List String
  | .counter => ["self", "metric_name"]
  | .histogram => ["self", "operation_name"]
  | .info => []

/-- Feeds a metric by its name. Unknown names are passed over; a metric of another kind has its
sample come up but does not count. A name that can be no key is a fault, as is anything but a table
of labels. -/
def feed (kind : MetricKind) (name labels : Value) (m : Metrics) : Except Fault Unit × Metrics :=
  match labels with
  | .dict given =>
    if given.any (fun label => (takenNames kind).contains label.1) then (.error .mismatch, m)
    else
      match m.metricOf name with
      | .error f => (.error f, m)
      | .ok none => (.ok (), m)
      | .ok (some metric) =>
        match labelValues metric given with
        | .error f => (.error f, m)
        | .ok values =>
          if metric.kind = kind then (.ok (), m.add metric values 1)
          else (.error .absent, m.add metric values 0)
  | _ => (.error .mismatch, m)

/-- A label value between quotes. -/
def quotedValue (s : String) : String :=
  String.ofList (s.toList.flatMap fun c =>
    if c = '\\' then ['\\', '\\'] else if c = '\n' then ['\\', 'n'] else if c = '"' then ['\\', '"']
    else [c])

/-- A sample as a line: its name, its labels in order of their names, and its count. -/
def line (s : Sample) : String :=
  let sorted := s.labels.mergeSort fun a b => decide (a.1 ≤ b.1)
  let labels := sorted.map fun (name, value) => name ++ "=\"" ++ quotedValue value ++ "\""
  let group := if labels.isEmpty then "" else "\x7b" ++ String.intercalate "," labels ++ "\x7d"
  s.name ++ group ++ " " ++ toString s.count ++ ".0"

/-- All samples as lines, in order of their texts. -/
def lines (m : Metrics) : List String :=
  (m.samples.map line).mergeSort fun a b => decide (a ≤ b)

/-- A metric as it is described, with its samples. -/
def described (m : Metrics) (metric : Metric) : List String :=
  let name := if metric.kind = .info then metric.sampleName else metric.name
  ("# HELP " ++ name ++ " " ++ metric.help) ::
    ("# TYPE " ++ name ++ " " ++ metric.kind.describedAs) ::
      (m.samples.filter (·.name == metric.sampleName)).map line

/-- All metrics with what they tell and their samples, one line after the other. -/
def text (m : Metrics) : String :=
  String.join (((Metric.all m.service).flatMap m.described).map (· ++ "\n"))

end Metrics
end CourseAudit
