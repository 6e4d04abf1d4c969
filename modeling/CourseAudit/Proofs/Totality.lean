import CourseAudit.Proofs.Comparison
import CourseAudit.Proofs.Override
import CourseAudit.Proofs.Readable
import CourseAudit.Payload.Requests

/-!
What requests about tasks always find an answer to. A task out of a payload is reviewed, checked and
decided for any number of sections whatever it holds; only the display types that it may be shown by
are not found when its one value is an integer beyond all numbers.
-/
namespace CourseAudit

namespace Payload

/-- Every fallback of a section passes the check of its own field. -/
theorem sectionRecord_defaultsFit : sectionRecord.DefaultsFit := by
  simp [sectionRecord, sectionFields, componentFields, items, itemFields, lmsCourseFields,
    courseFields, integer, Form.DefaultsFit, Fields.DefaultsFit, Form.Fits]

theorem evaluateFields_defaultsFit : evaluateFields.DefaultsFit := by
  simp [evaluateFields, Fields.DefaultsFit, Form.DefaultsFit, Form.Fits, task_defaultsFit,
    sectionRecord_defaultsFit]

theorem contextFields_defaultsFit : contextFields.DefaultsFit := by
  simp [contextFields, Fields.DefaultsFit, Form.DefaultsFit, Form.Fits, task_defaultsFit,
    sectionRecord_defaultsFit]

end Payload

/-- Sections out of requests can be named. -/
theorem Section.isNamed_ofPayload {v : Value} (fits : Payload.sectionRecord.Fits v)
    (short : v.holdsLong = false) : (ofPayload v).IsNamed := by
  obtain ⟨name, named⟩ := fits.part "name" rfl
  exact ⟨Payload.hasText_of_identifier (fits.part "id" rfl) (Value.holdsLong_part short "id"),
    name, congrArg Value.write named⟩

/-- A review has a verdict exactly when its status says so. -/
def Review.IsWhole (r : Review) : Prop :=
  match r.status with
  | .evaluated | .manual => ∃ d, r.data = some d
  | .noSection | .invalid => r.data = none

namespace PlanTask

variable {catalog : Catalog} {context : EvaluationContext} {t : PlanTask}

theorem WellTyped.isSavable_total (h : t.WellTyped) {name : String} (named : t.name = .text name)
    (catalog : Catalog) : ∃ b, t.isSavable catalog = .ok b := by
  have complete : ∃ b, t.isComplete catalog = .ok b := map_total _ (h.isIncomplete_total catalog)
  unfold isSavable
  rw [named]
  split
  · dsimp only [Value.asText?]
    split
    · exact ⟨false, rfl⟩
    · exact complete
  · exact ⟨false, rfl⟩

/-- A reviewer sees something of every task, with a section or without one. -/
theorem WellTyped.review_total (h : t.WellTyped) {subject : Slot Section}
    (given : subject = .other .null ∨ ∃ s : Section, subject = s) (override : Option Verdict) :
    ∃ review, t.review catalog context subject override = .ok review := by
  have anyone : IsSubject subject := given.imp_right fun ⟨s, same⟩ => ⟨s, [], same⟩
  obtain ⟨status, panel⟩ := h.panelStatus_total catalog subject
  obtain ⟨review, found, -⟩ := (h.isStructured.review_alike anyone override).of_ok panel
  exact ⟨review, found⟩

theorem isWhole_of_review {subject : Slot Section} {override : Option Verdict} {review : Review}
    (h : t.review catalog context subject override = .ok review) : review.IsWhole := by
  unfold PlanTask.review at h
  split at h
  · cases h
    rfl
  · split at h
    · obtain ⟨o, -, rfl⟩ := map_eq_ok_iff.mp h
      exact ⟨_, rfl⟩
    · obtain ⟨incomplete, -, h⟩ := bind_eq_ok_iff.mp h
      split at h
      · cases h
        rfl
      · split at h
        · obtain ⟨o, -, h⟩ := bind_eq_ok_iff.mp h
          cases h
          exact ⟨_, rfl⟩
        · obtain ⟨evaluated, -, h⟩ := bind_eq_ok_iff.mp h
          split at h
          · cases h
            exact ⟨_, rfl⟩
          · cases h
            rfl

/-- A task has entries for any number of sections that can be named. -/
theorem WellTyped.contextEntries_total (h : t.WellTyped) (catalog : Catalog)
    (context : EvaluationContext) {sections : List Section} (named : ∀ s ∈ sections, s.IsNamed) :
    ∃ entries, t.contextEntries catalog context (.ofList sections) = .ok entries := by
  have ways := @IsStructured.waysAgree catalog context t h.isStructured sections
  cases set : t.groups.isSet with
  | false => exact ⟨[], (ways.manual set).1⟩
  | true =>
      obtain ⟨complete, decided⟩ := ways.decided h
      cases complete with
      | false => exact ⟨[], (ways.incomplete set decided).1⟩
      | true =>
          obtain ⟨-, entries, -, built, -⟩ := ways.named set decided named
          exact ⟨entries, built⟩

/-- The one value of a task is to be compared as a number, and is an integer beyond all numbers. -/
def Overflows (catalog : Catalog) (t : PlanTask) : Prop :=
  ∃ c rule i, t.groupedConditions.flatten = [c] ∧ catalog.ruleOf c = .ok (some rule) ∧
    rule.valueType = .numeric ∧ Operator.requiresValue c.operator = .ok true ∧ c.value = .int i ∧
      Binary64.integerLimit ≤ i.natAbs

theorem divides_total {whole : Value}
    (near : ∀ i, whole = .int i → i.natAbs < Binary64.integerLimit) :
    ∃ b, divides whole = .ok b := by
  have number : ∃ x, whole.toNumber = .ok x := by
    cases whole with
    | int i =>
        refine Value.toNumber_total ?_
        rw [Value.inRange, decide_eq_true_iff]
        exact near i rfl
    | _ => exact ⟨_, rfl⟩
  obtain ⟨x, hx⟩ := number
  unfold divides
  rw [hx, ok_bind]
  cases x <;> exact ⟨_, rfl⟩

theorem WellTyped.condition (h : t.WellTyped) :
    ∀ c ∈ t.groupedConditions.flatten, c.WellTyped := by
  intro c member
  obtain ⟨group, grouped, inside⟩ := List.mem_flatten.mp member
  obtain ⟨g, listed, rfl⟩ := List.mem_map.mp grouped
  exact (h.groups.records g listed).conditions.records c inside

/-- The display types of a task out of a payload are found unless its value overflows. -/
theorem WellTyped.allowedDisplays_total (h : t.WellTyped) (near : ¬ t.Overflows catalog) :
    ∃ allowed, t.allowedDisplays catalog none = .ok allowed := by
  unfold allowedDisplays
  rcases h.isStructured.governing with ⟨c, notes, only, found⟩ | ⟨-, found⟩
  · have typed : c.WellTyped := h.condition c (by rw [only]; exact List.mem_singleton_self c)
    obtain ⟨rule, ruled⟩ := typed.ruleOf_total catalog
    obtain ⟨required, asked⟩ := typed.operator.requiresValue_total
    rw [found, ok_bind]
    dsimp only
    rw [Slot.get_own, ok_bind, ruled, ok_bind]
    cases rule with
    | none => exact ⟨_, rfl⟩
    | some rule =>
        dsimp only
        cases kind : rule.valueType with
        | numeric =>
            have both : ∃ b, (Operator.requiresValue c.operator).and (divides c.value) = .ok b := by
              rw [asked]
              cases required with
              | false => exact ⟨false, rfl⟩
              | true =>
                  refine divides_total fun i value => ?_
                  by_contra far
                  exact near ⟨c, rule, i, only, ruled, kind, asked, value, not_lt.mp far⟩
            obtain ⟨b, both⟩ := both
            dsimp only
            rw [both, ok_bind]
            cases b <;> exact ⟨_, rfl⟩
        | _ => exact ⟨_, rfl⟩
  · rw [found]
    exact ⟨_, rfl⟩

theorem Overflows.allowedDisplays (h : t.WellTyped) (far : t.Overflows catalog) :
    t.allowedDisplays catalog none = .error .overflow := by
  obtain ⟨c, rule, i, only, ruled, numeric, required, value, beyond⟩ := far
  have overflow : divides c.value = .error .overflow := by
    unfold divides
    rw [value, Value.toNumber_beyond beyond]
    rfl
  unfold PlanTask.allowedDisplays
  rcases h.isStructured.governing with ⟨d, notes, same, found⟩ | ⟨several, -⟩
  · cases only.symm.trans same
    rw [found, ok_bind]
    dsimp only
    rw [Slot.get_own, ok_bind, ruled, ok_bind]
    dsimp only
    rw [numeric]
    dsimp only
    rw [required, overflow]
    rfl
  · exact absurd (congrArg List.length only) several

end PlanTask
end CourseAudit
