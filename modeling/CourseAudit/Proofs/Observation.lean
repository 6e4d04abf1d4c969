import CourseAudit.Proofs.Acceptance

/-!
How requests are observed. A request that is answered is counted once, under its method, its path
and the status that is sent, and its response carries its id; a request whose handling fails is
counted nowhere among the requests, and its response carries no id.
-/
namespace CourseAudit

namespace Event

/-- The metrics that events feed. -/
def metrics : List Metric :=
  [.healthChecks, .validations, .evaluationDurations, .evaluations, .businessEvents, .errors]

theorem metric_of_marks {service : String} {event? : Option Event} {mark : Mark}
    (h : mark ∈ marksOf service event?) : mark.metric ∈ metrics := by
  cases event? with
  | none => exact absurd h List.not_mem_nil
  | some event =>
      revert mark
      cases event with
      | history recorded => cases recorded <;> simp [marksOf, marks, metrics]
      | _ => simp [marksOf, marks, metrics]

/-- Events are not counted among the requests. -/
theorem countP_requests (service : String) (event? : Option Event) :
    (marksOf service event?).countP (·.metric.sampleName == Metric.requests.sampleName) = 0 := by
  rw [List.countP_eq_zero]
  intro mark member
  have others : ∀ metric ∈ metrics, ¬ (metric.sampleName == Metric.requests.sampleName) = true := by
    decide +kernel
  exact others mark.metric (metric_of_marks member)

end Event

/-- Marks of other metrics have no combination of the label values of a metric. -/
theorem Mark.countP_hits_eq_zero {metric : Metric} {marks : List Mark}
    (others : marks.countP (·.metric.sampleName == metric.sampleName) = 0) (values : List String) :
    marks.countP (·.hits metric values) = 0 := by
  rw [List.countP_eq_zero] at others ⊢
  exact fun mark member both => others mark member (Bool.and_eq_true_iff.mp both).1

theorem Mark.hits_requests (method path status : String) (own : String × String × String) :
    Mark.hits .requests [method, path, status] ⟨.requests, [own.1, own.2.1, own.2.2]⟩ =
      (own == (method, path, status)) := by
  rw [Bool.eq_iff_iff]
  simp [Mark.hits, Metric.requests, Prod.ext_iff]

namespace Turn

/-- The method, the path and the status that a turn is counted under when it is answered. -/
def labels (t : Turn) : String × String × String :=
  (t.request.method, t.request.countedPath, toString t.response.status)

/-- Whether a turn is answered under a method, a path and a status. -/
def isAnsweredAs (method path status : String) (t : Turn) : Bool :=
  t.response.status != 500 && t.labels == (method, path, status)

theorem countP_answered (t : Turn) :
    t.marks.countP (·.metric.sampleName == Metric.requests.sampleName) =
      if t.response.status != 500 then 1 else 0 := by
  have durations : (Metric.requestDurations.sampleName == Metric.requests.sampleName) = false := by
    decide +kernel
  have errors : (Metric.errors.sampleName == Metric.requests.sampleName) = false := by
    decide +kernel
  rw [marks, List.countP_append, Event.countP_requests, closing]
  by_cases failure : t.response.status = 500
  · simp [failure, errors]
  · simp [failure, durations]

theorem countP_isAnsweredAs (method path status : String) (t : Turn) :
    t.marks.countP (·.hits .requests [method, path, status]) =
      if t.isAnsweredAs method path status then 1 else 0 := by
  have events : (Event.marksOf t.service.metrics.service t.event?).countP
      (·.hits .requests [method, path, status]) = 0 :=
    Mark.countP_hits_eq_zero (Event.countP_requests ..) _
  have durations (values : List String) :
      Mark.hits .requests [method, path, status] ⟨.requestDurations, values⟩ = false := rfl
  have errors (values : List String) :
      Mark.hits .requests [method, path, status] ⟨.errors, values⟩ = false := rfl
  rw [marks, List.countP_append, events, closing, isAnsweredAs]
  by_cases failure : t.response.status = 500
  · simp [failure, errors]
  · have own : Mark.hits .requests [method, path, status]
        ⟨.requests, [t.request.method, t.request.countedPath, toString t.response.status]⟩ =
          (t.labels == (method, path, status)) :=
      Mark.hits_requests method path status t.labels
    rw [if_neg failure, List.countP_cons, List.countP_singleton, durations, own,
      bne_iff_ne.mpr failure, Bool.true_and, if_neg Bool.false_ne_true, Nat.zero_add, Nat.zero_add]

/-- How a turn is observed: with its id and once under its own labels when it is answered, and
neither when it fails. -/
structure Observed (t : Turn) : Prop where
  answered : t.response.status ≠ 500 → t.response.requestId = some t.requestId ∧
    ∀ method path status, t.after.metrics.count .requests [method, path, status] =
      t.service.metrics.count .requests [method, path, status] +
        if t.labels = (method, path, status) then 1 else 0
  failed : t.response.status = 500 → t.response.requestId = none ∧
    ∀ method path status, t.after.metrics.count .requests [method, path, status] =
      t.service.metrics.count .requests [method, path, status]

theorem observed (t : Turn) : t.Observed := by
  obtain ⟨ends, -, metrics⟩ := t.ends
  have counted (method path status : String) :
      t.after.metrics.count .requests [method, path, status] =
        t.service.metrics.count .requests [method, path, status] +
          if t.isAnsweredAs method path status then 1 else 0 := by
    rw [metrics, Metrics.count_marked, countP_isAnsweredAs]
  refine ⟨fun works => ⟨?_, fun method path status => ?_⟩,
    fun failure => ⟨?_, fun method path status => ?_⟩⟩
  · cases ends with
    | answered _ _ _ response => rw [response]
    | failed _ response => exact absurd (congrArg Response.status response) works
  · rw [counted, isAnsweredAs, bne_iff_ne.mpr works, Bool.true_and]
    simp only [beq_iff_eq]
  · cases ends with
    | answered _ _ answers response =>
        rw [response] at failure
        exact absurd failure answers.ne_failure
    | failed _ response => rw [response]
  · rw [counted, isAnsweredAs, failure]
    rfl

end Turn

namespace Service

variable {config : Config} {catalog : Catalog} {metric : Metric}

/-- A service starts with nothing counted but the facts about itself. -/
theorem count_start (other : Metric.serviceInfo.sampleName ≠ metric.sampleName)
    (values : List String) : (start config catalog).metrics.count metric values = 0 := by
  have apart := beq_eq_false_iff_ne.mpr other
  simp [start, Metrics.start, Metrics.count, apart]

theorem total_start (other : Metric.serviceInfo.sampleName ≠ metric.sampleName) :
    (start config catalog).metrics.total metric = 0 := by
  have apart := beq_eq_false_iff_ne.mpr other
  simp [start, Metrics.start, Metrics.total, apart]

/-- Every request of a session is counted once, under its method, its path and the status that is
sent, but for those whose handling fails; and just those are answered without their ids. -/
theorem requests_observed (config : Config) (catalog : Catalog)
    (calls : List (Surroundings × Request)) :
    ((start config catalog).after calls).metrics.total .requests +
        ((start config catalog).turns calls).countP (·.response.status = 500) = calls.length ∧
      (∀ method path status,
        ((start config catalog).after calls).metrics.count .requests [method, path, status] =
          ((start config catalog).turns calls).countP (·.isAnsweredAs method path status)) ∧
      ∀ t ∈ (start config catalog).turns calls, t.Observed := by
  have other : Metric.serviceInfo.sampleName ≠ Metric.requests.sampleName := by decide +kernel
  refine ⟨?_, fun method path status => ?_, fun t _ => t.observed⟩
  · rw [tally_after (Metrics.isTally_total .requests) fun t _ => t.countP_answered,
      total_start other, ← length_turns (start config catalog) calls,
      List.length_eq_countP_add_countP (·.response.status != 500)]
    simp [bne]
  · rw [tally_after (Metrics.isTally_count .requests [method, path, status])
      fun t _ => t.countP_isAnsweredAs method path status, count_start other, Nat.zero_add]

/-- A request whose handling fails is not observed at all. -/
theorem requests_unobserved : ¬ ∀ config catalog calls,
    ((start config catalog).after calls).metrics.total .requests = calls.length ∧
      ∀ t ∈ (start config catalog).turns calls, t.response.requestId = some t.requestId := by
  intro observed
  obtain ⟨counted, -⟩ := observed .fallback Catalog.standard [(quiet, .hugeValue)]
  exact absurd counted (by decide +kernel)

end Service
end CourseAudit
