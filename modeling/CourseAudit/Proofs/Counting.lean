import CourseAudit.Service.Metrics

/-!
Laws of counts. Adding marks one after the other adds to the count of a combination of label values
the number of marks that have it, and to the total of a metric the number of its marks.
-/
namespace CourseAudit

/-- What is counted once: a metric with the values of its labels. -/
structure Mark where
  metric : Metric
  values : List String

/-- Whether a mark has a combination of label values. -/
def Mark.hits (metric : Metric) (values : List String) (mark : Mark) : Bool :=
  mark.metric.sampleName == metric.sampleName &&
    mark.metric.labels.zip mark.values == metric.labels.zip values

namespace Metrics

/-- Adds one for every mark. -/
def marked (m : Metrics) (marks : List Mark) : Metrics :=
  marks.foldl (fun m mark => m.add mark.metric mark.values 1) m

/-- The sum of all counts of a metric. -/
def total (m : Metrics) (metric : Metric) : Nat :=
  (m.samples.filter (·.name == metric.sampleName)).foldr (fun s n => s.count + n) 0

variable {m : Metrics} {marks : List Mark} {metric : Metric} {values : List String}

theorem marked_append (marks others : List Mark) :
    m.marked (marks ++ others) = (m.marked marks).marked others :=
  List.foldl_append

@[simp] theorem service_marked : (m.marked marks).service = m.service := by
  induction marks generalizing m with
  | nil => rfl
  | cons mark rest ih => exact ih

/-- The count of a name with labels, of which the first sample tells. -/
def countIn (name : String) (labels : List (String × String)) (samples : List Sample) : Nat :=
  ((samples.find? fun s => s.name == name && s.labels == labels).map Sample.count).getD 0

theorem countIn_addTo (name other : String) (labels otherLabels : List (String × String)) (n : Nat)
    (samples : List Sample) :
    countIn name labels (addTo other otherLabels n samples) =
      countIn name labels samples + if other == name && otherLabels == labels then n else 0 := by
  induction samples with
  | nil => cases h : other == name && otherLabels == labels <;> simp [addTo, countIn, h]
  | cons s rest ih =>
      cases found : s.name == name && s.labels == labels with
      | true =>
          -- The sample tells the count, so it is the one that is added to.
          obtain ⟨rfl, rfl⟩ := (Bool.and_eq_true_iff.mp found).imp eq_of_beq eq_of_beq
          unfold addTo
          split
          · next same =>
              rw [← same.1, ← same.2]
              simp [countIn]
          · next apart =>
              have differ : (other == s.name && otherLabels == s.labels) = false := by
                refine Bool.eq_false_iff.mpr fun both => apart ?_
                exact (Bool.and_eq_true_iff.mp both).imp (fun h => (eq_of_beq h).symm)
                  fun h => (eq_of_beq h).symm
              simp [countIn, differ]
      | false =>
          unfold addTo
          split
          · next same =>
              rw [← same.1, ← same.2]
              simp [countIn, found]
          · simpa [countIn, found] using ih

theorem count_add (mark : Mark) :
    (m.add mark.metric mark.values 1).count metric values =
      m.count metric values + if mark.hits metric values then 1 else 0 :=
  countIn_addTo ..

/-- Marks add their number to the count that they hit. -/
theorem count_marked : (m.marked marks).count metric values =
    m.count metric values + marks.countP (·.hits metric values) := by
  induction marks generalizing m with
  | nil => rfl
  | cons mark rest ih =>
      refine ih.trans ?_
      rw [count_add, List.countP_cons]
      omega

theorem sum_addTo (name other : String) (labels : List (String × String)) (n : Nat)
    (samples : List Sample) :
    ((addTo other labels n samples).filter (·.name == name)).foldr (fun s n => s.count + n) 0 =
      (samples.filter (·.name == name)).foldr (fun s n => s.count + n) 0 +
        if other == name then n else 0 := by
  induction samples with
  | nil => cases h : other == name <;> simp [addTo, h]
  | cons s rest ih =>
      unfold addTo
      split
      · next same =>
          rw [← same.1]
          cases h : s.name == name
          · simp [h]
          · simp [h]
            omega
      · cases h : s.name == name
        · simpa [h] using ih
        · simp [h, ih]
          omega

theorem total_add (mark : Mark) : (m.add mark.metric mark.values 1).total metric =
    m.total metric + if mark.metric.sampleName == metric.sampleName then 1 else 0 :=
  sum_addTo ..

/-- Marks add their number to the total of their metric. -/
theorem total_marked : (m.marked marks).total metric =
    m.total metric + marks.countP (·.metric.sampleName == metric.sampleName) := by
  induction marks generalizing m with
  | nil => rfl
  | cons mark rest ih =>
      refine ih.trans ?_
      rw [total_add, List.countP_cons]
      omega

/-- A number that is told by counts: every mark of a kind adds one to it, and no other does. -/
def IsTally (number : Metrics → Nat) (kind : Mark → Bool) : Prop :=
  ∀ m marks, number (marked m marks) = number m + marks.countP kind

theorem isTally_count (metric : Metric) (values : List String) :
    IsTally (·.count metric values) (·.hits metric values) := fun _ _ => count_marked

theorem isTally_total (metric : Metric) :
    IsTally (·.total metric) (·.metric.sampleName == metric.sampleName) := fun _ _ => total_marked

end Metrics
end CourseAudit
