import CourseAudit.Proofs.Agreement
import CourseAudit.Proofs.Alike

/-!
Overrides of a reviewer. What the panel of a result says about a task hangs on whether there is a
section, on whether the task has groups and on whether it is complete, but never on an override;
and what an override shows hangs on nothing but the task.
-/
namespace CourseAudit

/-- Whether an outcome is shown beside a status. -/
def ReviewStatus.shows : ReviewStatus → Bool
  | .manual | .evaluated => true
  | .noSection | .invalid => false

namespace PlanTask

variable {catalog : Catalog} {context : EvaluationContext} {t : PlanTask} {subject : Slot Section}
  {override : Option Verdict}

/-- A section, or none. -/
def IsSubject (subject : Slot Section) : Prop :=
  subject = .other .null ∨ ∃ s notes, subject = .own s notes

/-- What the panel says about a task, with an override or without one. -/
def panelStatus (catalog : Catalog) (t : PlanTask) (subject : Slot Section) :
    Except Fault ReviewStatus :=
  if subject.isNull then .ok .noSection
  else if t.groups.isSet then
    (t.isIncomplete catalog).map fun incomplete => if incomplete then .invalid else .evaluated
  else .ok .manual

/-- What a verdict shows of a task that presents it by `p`. -/
def overridden (t : PlanTask) (v : Verdict) (p : Presentation) : ReviewedOutcome :=
  ⟨⟨v.passes, if t.displayType.asText? = some "Yes/No" then yesNo v.passes else "", p⟩, true,
    !t.groups.isSet⟩

/-- What may be shown of a task beside its status. -/
def Shows (catalog : Catalog) (context : EvaluationContext) (t : PlanTask) (subject : Slot Section)
    (d : ReviewedOutcome) : Option Verdict → Prop
  | some v => ∃ p, (t.presentation v.passes).get = .ok p ∧ d = t.overridden v p
  | none => d.isOverride = false ∧ d.isManual = !t.groups.isSet ∧
    (t.groups.isSet = false → d.outcome.passes = false) ∧
    (t.groups.isSet = true → t.evaluate catalog context subject = .ok (some d.outcome))

/-- A review that says a status, with an outcome where one is shown. -/
structure Displays (catalog : Catalog) (context : EvaluationContext) (t : PlanTask)
    (subject : Slot Section) (override : Option Verdict) (status : ReviewStatus) (r : Review) :
    Prop where
  said : r.status = status
  present : r.data.isSome = status.shows
  shown : ∀ d, r.data = some d → t.Shows catalog context subject d override

theorem displays_bare {status : ReviewStatus} (bare : status.shows = false) :
    t.Displays catalog context subject override status ⟨status, none⟩ :=
  ⟨rfl, bare.symm, nofun⟩

theorem Shows.displays {d : ReviewedOutcome} {status : ReviewStatus}
    (h : t.Shows catalog context subject d override) (full : status.shows = true) :
    t.Displays catalog context subject override status ⟨status, some d⟩ := by
  refine ⟨rfl, full.symm, ?_⟩
  rintro _ ⟨⟩
  exact h

theorem manualDisplay_eq (passes : Bool) : t.manualDisplay passes =
    if t.displayType.asText? = some "Yes/No" then yesNo passes else "" := by
  simp only [manualDisplay, beq_iff_eq]
  rfl

theorem panelStatus_noSection_iff (given : IsSubject subject) {status : ReviewStatus}
    (h : t.panelStatus catalog subject = .ok status) :
    status = .noSection ↔ subject = .other .null := by
  rcases given with rfl | ⟨s, notes, rfl⟩
  · cases h
    exact iff_of_true rfl rfl
  · refine iff_of_false ?_ nofun
    rintro rfl
    rw [panelStatus, Slot.isNull_own, if_neg Bool.false_ne_true] at h
    split at h
    · obtain ⟨b, -, same⟩ := map_eq_ok_iff.mp h
      cases b <;> cases same
    · cases h

theorem manualOutcome_eq {p : Presentation} {passes : Bool}
    (presented : (t.presentation passes).get = .ok p) :
    t.manualOutcome passes = .ok ⟨passes, t.manualDisplay passes, p⟩ := by
  rw [manualOutcome, presented]
  rfl

section Exits

variable {s : Section} {notes : List (String × Value)}

/-- By hand a task fails unless a verdict says otherwise. -/
theorem IsStructured.review_manual (h : t.IsStructured) (unset : t.groups.isSet = false)
    (override : Option Verdict) :
    ∃ d, t.review catalog context (.own s notes) override = .ok ⟨.manual, some d⟩ ∧
      t.Shows catalog context (.own s notes) d override := by
  have byHand : t.review catalog context (.own s notes) override = t.reviewByHand override := by
    unfold review
    rw [Slot.isNull_own, if_neg Bool.false_ne_true, unset]
    rfl
  rw [byHand]
  cases override with
  | some v =>
      obtain ⟨p, presented⟩ := h.presentation v.passes
      refine ⟨t.overridden v p, ?_, p, presented, rfl⟩
      have decided := manualOutcome_eq presented
      rw [overridden, unset, ← manualDisplay_eq]
      exact congrArg (Except.map _) decided
  | none =>
      obtain ⟨p, presented⟩ := h.presentation false
      refine ⟨⟨⟨false, t.manualDisplay false, p⟩, false, true⟩, ?_, rfl, ?_, fun _ => rfl, ?_⟩
      · exact congrArg (Except.map _) (manualOutcome_eq presented)
      · rw [unset, Bool.not_false]
      · intro set
        cases unset.symm.trans set

theorem review_undecided (set : t.groups.isSet = true) {fault : Fault}
    (undecided : t.isIncomplete catalog = .error fault) (override : Option Verdict) :
    t.review catalog context (.own s notes) override = .error fault := by
  unfold review
  rw [Slot.isNull_own, if_neg Bool.false_ne_true, set, undecided]
  rfl

theorem review_incomplete (set : t.groups.isSet = true)
    (incomplete : t.isIncomplete catalog = .ok true) (override : Option Verdict) :
    t.review catalog context (.own s notes) override = .ok ⟨.invalid, none⟩ := by
  unfold review
  rw [Slot.isNull_own, if_neg Bool.false_ne_true, set, incomplete]
  rfl

/-- Of a task that is complete a verdict is shown, or else the evaluation. -/
theorem IsStructured.review_complete (h : t.IsStructured) (set : t.groups.isSet = true)
    (complete : t.isIncomplete catalog = .ok false) (override : Option Verdict) :
    ∃ d, t.review catalog context (.own s notes) override = .ok ⟨.evaluated, some d⟩ ∧
      t.Shows catalog context (.own s notes) d override := by
  unfold review
  rw [Slot.isNull_own, if_neg Bool.false_ne_true, set, complete]
  cases override with
  | some v =>
      obtain ⟨p, presented⟩ := h.presentation v.passes
      refine ⟨t.overridden v p, ?_, p, presented, rfl⟩
      rw [overridden, set, ← manualDisplay_eq]
      simp only [manualOutcome_eq presented]
      rfl
  | none =>
      have evaluated := @evaluate_of_get catalog context t h (.own s notes) s rfl
      rcases evaluated with ⟨unset, -⟩ | ⟨-, o, evaluated, -⟩
      · cases unset.symm.trans set
      · refine ⟨⟨o, false, false⟩, ?_, rfl, ?_, ?_, fun _ => evaluated⟩
        · rw [evaluated]
          rfl
        · rw [set, Bool.not_true]
        · intro unset
          cases unset.symm.trans set

end Exits

/-- A review says the status of the panel, whatever the override. -/
theorem IsStructured.review_alike (h : t.IsStructured) (given : IsSubject subject)
    (override : Option Verdict) : Alike (t.Displays catalog context subject override)
      (t.panelStatus catalog subject) (t.review catalog context subject override) := by
  rcases given with rfl | ⟨s, notes, rfl⟩
  · exact .ok (displays_bare rfl)
  · unfold panelStatus
    rw [Slot.isNull_own, if_neg Bool.false_ne_true]
    cases set : t.groups.isSet with
    | false =>
        obtain ⟨d, shown, shows⟩ := h.review_manual set override
        rw [shown]
        exact .ok (shows.displays rfl)
    | true =>
        cases checked : t.isIncomplete catalog with
        | error fault =>
            rw [review_undecided set checked]
            exact .error fault
        | ok incomplete =>
            cases incomplete with
            | true =>
                rw [review_incomplete set checked]
                exact .ok (displays_bare rfl)
            | false =>
                obtain ⟨d, shown, shows⟩ := h.review_complete set checked override
                rw [shown]
                exact .ok (shows.displays rfl)

/-- What overrides leave as it is, and what they show. -/
structure OverrideLaws (t : PlanTask) : Prop where
  /-- An override changes neither the status nor the fault by which there is none. -/
  status : ∀ catalog context subject, IsSubject subject → ∀ v,
    (t.review catalog context subject (some v)).map (·.status) =
      (t.review catalog context subject none).map (·.status)
  noSection : ∀ catalog context subject, IsSubject subject → ∀ override r,
    t.review catalog context subject override = .ok r →
      (r.status = .noSection ↔ subject = .other .null)
  present : ∀ catalog context subject, IsSubject subject → ∀ override r,
    t.review catalog context subject override = .ok r →
      (r.data.isSome = true ↔ r.status = .manual ∨ r.status = .evaluated)
  /-- One outcome is shown by an override, whatever the section, the context and the catalog. -/
  overridden : ∀ v, ∃ p, (if v.passes then t.onPass else t.onFailure).get = .ok p ∧
    ∀ catalog context subject, IsSubject subject → ∀ r d,
      t.review catalog context subject (some v) = .ok r → r.data = some d →
        d = ⟨⟨v.passes, if t.displayType.asText? = some "Yes/No" then
          (if v.passes then "Yes" else "No") else "", p⟩, true, !t.groups.isSet⟩
  plain : ∀ catalog context subject, IsSubject subject → ∀ r d,
    t.review catalog context subject none = .ok r → r.data = some d →
      d.isOverride = false ∧ d.isManual = !t.groups.isSet ∧
        (t.groups.isSet = false → d.outcome.passes = false) ∧
        (t.groups.isSet = true → t.evaluate catalog context subject = .ok (some d.outcome))
  answered : t.WellTyped → ∀ catalog context subject, IsSubject subject → ∀ override,
    ∃ r, t.review catalog context subject override = .ok r

theorem IsStructured.review_status (h : t.IsStructured) (given : IsSubject subject)
    (override : Option Verdict) : (t.review catalog context subject override).map (·.status) =
      t.panelStatus catalog subject := by
  have alike := @review_alike catalog context t subject h given override
  generalize t.panelStatus catalog subject = status, t.review catalog context subject override = r
    at alike
  cases alike with
  | ok shown => exact congrArg Except.ok shown.said
  | error fault => rfl

theorem WellTyped.panelStatus_total (h : t.WellTyped) (catalog : Catalog)
    (subject : Slot Section) : ∃ status, t.panelStatus catalog subject = .ok status := by
  unfold panelStatus
  split
  · exact ⟨_, rfl⟩
  · split
    · exact map_total _ (h.isIncomplete_total catalog)
    · exact ⟨_, rfl⟩

/-- Whether there is something to show, and what is said about it, is never up to an override; what
an override shows is up to nothing else than the task. -/
theorem override_laws (h : t.IsStructured) : t.OverrideLaws where
  status catalog context subject given v := by
    rw [h.review_status given, h.review_status given]
  noSection catalog context subject given override r found := by
    obtain ⟨status, panel, shown⟩ := (h.review_alike given override).to_ok found
    rw [shown.said]
    exact panelStatus_noSection_iff given panel
  present catalog context subject given override r found := by
    obtain ⟨status, panel, shown⟩ := (h.review_alike given override).to_ok found
    rw [shown.present, shown.said]
    cases status <;> simp [ReviewStatus.shows]
  overridden v := by
    obtain ⟨p, presented⟩ := h.presentation v.passes
    refine ⟨p, presented, fun catalog context subject given r d found shows => ?_⟩
    obtain ⟨status, panel, shown⟩ := (h.review_alike given (some v)).to_ok found
    obtain ⟨q, presented', same⟩ := shown.shown d shows
    cases presented.symm.trans presented'
    exact same
  plain catalog context subject given r d found shows := by
    obtain ⟨status, panel, shown⟩ := (h.review_alike given none).to_ok found
    exact shown.shown d shows
  answered typed catalog context subject given override := by
    obtain ⟨status, panel⟩ := typed.panelStatus_total catalog subject
    obtain ⟨r, found, -⟩ := (h.review_alike given override).of_ok panel
    exact ⟨r, found⟩

/-- A task that shows how many assignments have a name. -/
def countTask : PlanTask where
  displayType := .choice (.display .number)
  groups := .ofList [{ conditions := .ofList [{
    groupType := .choice (.group .lms), source := .text "Assignments"
    property := .text "Total Count", operator := .text "Is greater than", value := .int 0
    subConditions := .ofList [{ property := .text "Name", operator := .text "Is not empty" }] }] }]

/-- Passed by hand, the task shows no number. -/
theorem override_laws_countTask : countTask.IsStructured ∧
    ∃ r d, countTask.review Catalog.standard (.ofDay ⟨2025, 10, 1, by decide⟩)
        (.own ({} : Section) []) (some .pass) = .ok r ∧ r.data = some d ∧
      r.status = .evaluated ∧ d.outcome.passes = true ∧ d.outcome.display = "" ∧
      d.isOverride = true ∧ d.isManual = false := by
  have structured : countTask.IsStructured := by
    refine ⟨⟨[(_, [])], rfl, rfl⟩, ?_, trivial, trivial⟩
    intro g member
    cases List.mem_singleton.mp member
    exact ⟨[(_, [])], rfl, rfl⟩
  have given : IsSubject (.own ({} : Section) []) := .inr ⟨_, _, rfl⟩
  have laws := override_laws structured
  have evaluated : (countTask.review Catalog.standard (.ofDay ⟨2025, 10, 1, by decide⟩)
      (.own ({} : Section) []) (some .pass)).toOption.map (·.status) = some .evaluated := by
    decide +kernel
  obtain ⟨p, -, shows⟩ := laws.overridden .pass
  cases found : countTask.review Catalog.standard (.ofDay ⟨2025, 10, 1, by decide⟩)
      (.own ({} : Section) []) (some .pass) with
  | error fault =>
      rw [found] at evaluated
      cases evaluated
  | ok r =>
      rw [found] at evaluated
      have said : r.status = .evaluated := Option.some.inj evaluated
      have present := (laws.present _ _ _ given _ r found).mpr (.inr said)
      obtain ⟨d, data⟩ := Option.isSome_iff_exists.mp present
      cases shows _ _ _ given r d found data
      exact ⟨structured, r, _, rfl, data, said, rfl, rfl, rfl, rfl⟩

end PlanTask
end CourseAudit
