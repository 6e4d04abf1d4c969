import CourseAudit.Proofs.Completeness
import CourseAudit.Proofs.Outcome
import CourseAudit.Review.Context
import Mathlib.Data.List.Perm.Basic

/-!
Three ways to ask for the outcome of a task: alone, as a reviewer sees it, and for many sections at
once. They look at groups, completeness and sections in different orders and answer alike.
-/
namespace CourseAudit

/-- Every entry of a list is chosen by exactly one of the two verdicts, in its order. -/
theorem filterEntries_splits (entries : List ContextEntry) :
    (filterEntries .pass entries).Sublist entries ∧ (filterEntries .fail entries).Sublist entries ∧
      (filterEntries .pass entries ++ filterEntries .fail entries).Perm entries ∧
      ∀ e ∈ entries, (e ∈ filterEntries .pass entries ↔ e.outcome.passes = true) ∧
        (e ∈ filterEntries .fail entries ↔ e.outcome.passes = false) := by
  have pass : filterEntries .pass entries = entries.filter (·.outcome.passes) := by
    refine List.filter_congr fun e _ => ?_
    cases e.outcome.passes <;> rfl
  have fail : filterEntries .fail entries = entries.filter (!·.outcome.passes) := by
    refine List.filter_congr fun e _ => ?_
    cases e.outcome.passes <;> rfl
  rw [pass, fail]
  refine ⟨List.filter_sublist, List.filter_sublist, List.filter_append_perm _ entries, ?_⟩
  intro e member
  simp [List.mem_filter, member]

/-- A section whose id and name can be written, as they can wherever a request names them. -/
structure Section.IsNamed (s : Section) : Prop where
  id : s.id.HasText
  name : s.name.HasText

/-- A section that can be named has an entry. -/
theorem Section.IsNamed.entryOf_total {s : Section} (h : s.IsNamed) (label : ContextLabel)
    (o : Outcome) : ∃ e, label.entryOf s o = .ok e := by
  obtain ⟨id, hi⟩ := h.id
  obtain ⟨name, hn⟩ := h.name
  unfold ContextLabel.entryOf ContextLabel.idOf ContextLabel.nameOf
  rw [hi, hn]
  split <;> exact ⟨_, rfl⟩

theorem ContextLabel.outcome_of_entryOf {label : ContextLabel} {s : Section} {o : Outcome}
    {e : ContextEntry} (h : label.entryOf s o = .ok e) : e.outcome = o := by
  obtain ⟨id, -, h⟩ := bind_eq_ok_iff.mp h
  obtain ⟨name, -, h⟩ := bind_eq_ok_iff.mp h
  cases h
  rfl

namespace Condition

/-- The group type of a condition that is complete can be told. -/
theorem ofValue?_of_complete {c : Condition} {catalog : Catalog}
    (complete : c.isIncomplete catalog = .ok false) :
    ∃ group, GroupType.ofValue? c.groupType = .ok group := by
  unfold isIncomplete at complete
  split at complete
  · cases complete
  · obtain ⟨-, rest⟩ := Test.or_eq_no_iff.mp complete
    obtain ⟨needs, asked⟩ := Test.of_and (Test.or_eq_no_iff.mp rest).1
    obtain ⟨rule, ruled, -⟩ := bind_eq_ok_iff.mp asked
    obtain ⟨group, told, -⟩ := bind_eq_ok_iff.mp ruled
    exact ⟨group, told⟩

end Condition

namespace PlanTask

variable {catalog : Catalog} {context : EvaluationContext} {t : PlanTask}

theorem isIncomplete_of_isComplete {b : Bool} (h : t.isComplete catalog = .ok b) :
    t.isIncomplete catalog = .ok (!b) := by
  obtain ⟨c, asked, rfl⟩ := map_eq_ok_iff.mp h
  rw [asked, Bool.not_not]

/-- The group types of a task that is complete can all be told. -/
theorem IsStructured.contextLabel_total (h : t.IsStructured)
    (complete : t.isComplete catalog = .ok true) : ∃ label, t.contextLabel = .ok label := by
  obtain ⟨slots, reading, only, records⟩ := conditions_of_groups h.groups h.conditions
  have told : ∀ c ∈ (Slots.own slots).records, ∃ group,
      (if c.groupType.isSet then GroupType.ofValue? c.groupType else pure none) = .ok group := by
    intro c member
    rw [records, ← occurrences_conditions] at member
    obtain ⟨o, inside, rfl⟩ := List.mem_map.mp member
    have checked := isIncomplete_of_isComplete complete
    rw [isIncomplete_eq_any h.groups h.conditions] at checked
    split
    · exact Condition.ofValue?_of_complete (Test.any_eq_no_iff.mp checked o inside)
    · exact ⟨none, rfl⟩
  obtain ⟨found, through⟩ := mapM_total told
  rw [← only.mapM_members] at through
  have types : ∃ found, t.groupTypes = .ok found := by
    unfold groupTypes
    rw [reading, ok_bind]
    exact ⟨_, bind_eq_ok_iff.mpr ⟨_, through, rfl⟩⟩
  obtain ⟨found, ht⟩ := types
  exact ⟨_, by rw [contextLabel, ht]; rfl⟩

/-- A task without groups has nothing that could be incomplete. -/
theorem IsStructured.complete_of_unset (h : t.IsStructured) (unset : t.groups.isSet = false) :
    t.isComplete catalog = .ok true := by
  have none : t.occurrences = [] := by
    rw [occurrences, Slots.records_of_unset unset]
    rfl
  rw [isComplete, isIncomplete_eq_any h.groups h.conditions, none]
  rfl

/-- Each section has an outcome, and the entries are those of the sections with their outcomes. -/
theorem IsStructured.entries_of_sections (h : t.IsStructured) (set : t.groups.isSet = true)
    (label : ContextLabel) (sections : List Section) :
    ∃ outcomes : List Outcome,
      ((sections.map fun s => Slot.own s []).mapM (t.contextEntry catalog context label)) =
          ((sections.zip outcomes).mapM fun (s, o) => label.entryOf s o).map (List.map some) ∧
        List.Forall₂ (fun (s : Section) o => t.evaluate catalog context s = .ok (some o))
          sections outcomes := by
  induction sections with
  | nil => exact ⟨[], rfl, .nil⟩
  | cons s rest ih =>
      obtain ⟨outcomes, through, alike⟩ := ih
      rcases @IsStructured.evaluate catalog context t h s with ⟨unset, -⟩ | ⟨-, o, evaluated, -⟩
      · exact absurd (set.symm.trans unset) (by decide)
      · refine ⟨o :: outcomes, ?_, .cons evaluated alike⟩
        rw [List.map_cons, List.mapM_cons, contextEntry, evaluated, ok_bind, through,
          List.zip_cons_cons, List.mapM_cons]
        dsimp only
        rw [Slot.get_own, ok_bind]
        cases label.entryOf s o with
        | error fault => rfl
        | ok entry =>
            generalize ((rest.zip outcomes).mapM fun (s, o) => label.entryOf s o) = entries
            cases entries <;> rfl

/-- What the three ways answer, by whether a task has groups and whether it is complete. A task
whose completeness is undecided is answered by neither. There are entries for all sections that can
be named, and none at all when there is one that cannot be. -/
structure WaysAgree (catalog : Catalog) (context : EvaluationContext) (t : PlanTask)
    (sections : List Section) : Prop where
  complete : t.groups.isSet = true → t.isComplete catalog = .ok true →
    ∃ label outcomes, t.contextLabel = .ok label ∧
      t.contextEntries catalog context (.ofList sections) =
        ((sections.zip outcomes).mapM fun (s, o) => label.entryOf s o) ∧
      List.Forall₂ (fun (s : Section) o =>
        t.evaluateComplete catalog context s = .ok (some o) ∧
        t.review catalog context s none = .ok ⟨.evaluated, some ⟨o, false, false⟩⟩)
        sections outcomes
  named : t.groups.isSet = true → t.isComplete catalog = .ok true → (∀ s ∈ sections, s.IsNamed) →
    ∃ label entries, t.contextLabel = .ok label ∧
      t.contextEntries catalog context (.ofList sections) = .ok entries ∧
      List.Forall₂ (fun (s : Section) e => label.entryOf s e.outcome = .ok e ∧
        t.evaluateComplete catalog context s = .ok (some e.outcome) ∧
        t.review catalog context s none = .ok ⟨.evaluated, some ⟨e.outcome, false, false⟩⟩)
        sections entries
  incomplete : t.groups.isSet = true → t.isComplete catalog = .ok false →
    t.contextEntries catalog context (.ofList sections) = .ok [] ∧ ∀ s : Section,
      t.evaluateComplete catalog context s = .ok none ∧
        t.review catalog context s none = .ok ⟨.invalid, none⟩
  manual : t.groups.isSet = false →
    t.contextEntries catalog context (.ofList sections) = .ok [] ∧ ∀ s : Section,
      t.evaluateComplete catalog context s = .ok none ∧
        ∃ d, t.review catalog context s none = .ok ⟨.manual, some d⟩
  undecided : t.groups.isSet = true → ∀ fault, t.isComplete catalog = .error fault →
    t.contextEntries catalog context (.ofList sections) = .error fault ∧ ∀ s : Section,
      t.evaluateComplete catalog context s = .error fault ∧
        t.review catalog context s none = .error fault
  decided : t.WellTyped → ∃ b, t.isComplete catalog = .ok b

theorem IsStructured.waysAgree_complete (h : t.IsStructured) (sections : List Section)
    (set : t.groups.isSet = true) (complete : t.isComplete catalog = .ok true) :
    ∃ label outcomes, t.contextLabel = .ok label ∧
      t.contextEntries catalog context (.ofList sections) =
        ((sections.zip outcomes).mapM fun (s, o) => label.entryOf s o) ∧
      List.Forall₂ (fun (s : Section) o =>
        t.evaluateComplete catalog context s = .ok (some o) ∧
        t.review catalog context s none = .ok ⟨.evaluated, some ⟨o, false, false⟩⟩)
        sections outcomes := by
  obtain ⟨label, labelled⟩ := h.contextLabel_total complete
  obtain ⟨outcomes, through, alike⟩ :=
    @IsStructured.entries_of_sections catalog context t h set label sections
  have checked := isIncomplete_of_isComplete complete
  refine ⟨label, outcomes, labelled, ?_, alike.imp fun s o evaluated => ⟨?_, ?_⟩⟩
  · have reading : (Slots.ofList sections).members = .ok (sections.map fun s => .own s []) := rfl
    have joined : ((((sections.map fun s => Slot.own s []).mapM
        (t.contextEntry catalog context label)) >>= fun found =>
          pure (found.filterMap fun entry => entry)) : Except Fault (List ContextEntry)) =
        (sections.zip outcomes).mapM fun (s, o) => label.entryOf s o := by
      rw [through]
      cases (sections.zip outcomes).mapM fun (s, o) => label.entryOf s o with
      | error fault => rfl
      | ok entries => exact congrArg Except.ok (by simp [List.filterMap_map])
    rw [contextEntries, set, checked, labelled, reading]
    exact joined
  · rw [evaluateComplete, complete, ok_bind]
    exact evaluated
  · rw [review, Slot.isNull_own, set, checked, evaluated]
    rfl

/-- Sections that can be named have their entries, one for each and in order. -/
theorem entries_of_named {label : ContextLabel} {sections : List Section} {outcomes : List Outcome}
    {P : Section → Outcome → Prop} (named : ∀ s ∈ sections, s.IsNamed)
    (alike : List.Forall₂ P sections outcomes) :
    ∃ entries, ((sections.zip outcomes).mapM fun (s, o) => label.entryOf s o) = .ok entries ∧
      List.Forall₂ (fun s (e : ContextEntry) => label.entryOf s e.outcome = .ok e ∧ P s e.outcome)
        sections entries := by
  induction alike with
  | nil => exact ⟨[], rfl, .nil⟩
  | @cons s o sections outcomes holds _ ih =>
      obtain ⟨entries, through, placed⟩ :=
        ih fun s member => named s (List.mem_cons_of_mem _ member)
      obtain ⟨e, made⟩ := (named s List.mem_cons_self).entryOf_total label o
      have own := ContextLabel.outcome_of_entryOf made
      refine ⟨e :: entries, ?_, .cons ⟨own ▸ made, own ▸ holds⟩ placed⟩
      rw [List.zip_cons_cons, List.mapM_cons]
      dsimp only
      rw [made, ok_bind, through]
      rfl

theorem IsStructured.waysAgree (h : t.IsStructured) (sections : List Section) :
    t.WaysAgree catalog context sections where
  complete := h.waysAgree_complete sections
  named := by
    intro set complete named
    obtain ⟨label, outcomes, labelled, built, alike⟩ :=
      @IsStructured.waysAgree_complete catalog context t h sections set complete
    obtain ⟨entries, through, placed⟩ := @entries_of_named label _ _ _ named alike
    exact ⟨label, entries, labelled, built.trans through, placed⟩
  incomplete := by
    intro set incomplete
    have checked := isIncomplete_of_isComplete incomplete
    refine ⟨?_, fun s => ⟨?_, ?_⟩⟩
    · rw [contextEntries, set, checked]
      rfl
    · rw [evaluateComplete, incomplete]
      rfl
    · rw [review, Slot.isNull_own, set, checked]
      rfl
  manual := by
    intro unset
    refine ⟨by rw [contextEntries, unset]; rfl, fun s => ⟨?_, ?_⟩⟩
    · rw [evaluateComplete, h.complete_of_unset unset, ok_bind, PlanTask.evaluate, unset]
      rfl
    · obtain ⟨p, presented⟩ := h.presentation false
      have byHand : t.reviewByHand none =
          .ok ⟨.manual, some ⟨⟨false, t.manualDisplay false, p⟩, false, true⟩⟩ := by
        change (t.manualOutcome false).map _ = _
        rw [manualOutcome, presented]
        rfl
      rw [review, Slot.isNull_own, unset]
      exact ⟨_, byHand⟩
  undecided := by
    intro set fault failing
    have asked : t.isIncomplete catalog = .error fault := by
      unfold isComplete at failing
      cases found : t.isIncomplete catalog with
      | ok b =>
          rw [found] at failing
          cases failing
      | error other =>
          rw [found] at failing
          cases failing
          rfl
    refine ⟨?_, fun s => ⟨?_, ?_⟩⟩
    · rw [contextEntries, set, asked]
      rfl
    · rw [evaluateComplete, failing]
      rfl
    · rw [review, Slot.isNull_own, set, asked]
      rfl
  decided := by
    intro typed
    exact map_total _ (typed.isIncomplete_total catalog)

/-- Whichever way the outcome of a task is asked for, the answers agree, and looking through those
that pass and those that fail is looking through all of them. -/
theorem ways_agree (catalog : Catalog) (context : EvaluationContext) {t : PlanTask}
    (h : t.IsStructured) (sections : List Section) :
    t.WaysAgree catalog context sections ∧ ∀ entries : List ContextEntry,
      (filterEntries .pass entries).Sublist entries ∧
        (filterEntries .fail entries).Sublist entries ∧
        (filterEntries .pass entries ++ filterEntries .fail entries).Perm entries ∧
        ∀ e ∈ entries, (e ∈ filterEntries .pass entries ↔ e.outcome.passes = true) ∧
          (e ∈ filterEntries .fail entries ↔ e.outcome.passes = false) :=
  ⟨h.waysAgree sections, filterEntries_splits⟩

/-- A task that a section passes when it has no name. -/
def namelessTask : PlanTask where
  groups := .ofList [{ conditions := .ofList [{
    groupType := .choice (.group .attribute), source := .text "Section"
    property := .text "Name", operator := .text "Is empty" }] }]

/-- Two sections, of which the first has no name. -/
def twoSections : List Section := [{}, { name := .text "Algebra" }]

theorem ways_agree_namelessTask :
    namelessTask.IsStructured ∧ namelessTask.groups.isSet = true ∧
      namelessTask.isComplete Catalog.standard = .ok true ∧
      ∃ entries, namelessTask.contextEntries Catalog.standard (.ofDay ⟨2025, 10, 1, by decide⟩)
          (.ofList twoSections) = .ok entries ∧
        entries.map (·.outcome.passes) = [true, false] := by
  have structured : namelessTask.IsStructured := by
    refine ⟨⟨[(_, [])], rfl, rfl⟩, ?_, trivial, trivial⟩
    intro g member
    cases List.mem_singleton.mp member
    exact ⟨[(_, [])], rfl, rfl⟩
  have complete : namelessTask.isComplete Catalog.standard = .ok true := by decide +kernel
  obtain ⟨ways, -⟩ := ways_agree Catalog.standard (.ofDay ⟨2025, 10, 1, by decide⟩) structured
    twoSections
  have named : ∀ s ∈ twoSections, s.IsNamed := by
    simp only [twoSections, List.forall_mem_cons]
    exact ⟨⟨⟨_, rfl⟩, ⟨_, rfl⟩⟩, ⟨⟨_, rfl⟩, ⟨_, rfl⟩⟩, fun _ none => absurd none List.not_mem_nil⟩
  obtain ⟨label, entries, -, built, -⟩ := ways.named rfl complete named
  have decided : (namelessTask.contextEntries Catalog.standard (.ofDay ⟨2025, 10, 1, by decide⟩)
      (.ofList twoSections)).toOption.map (List.map (·.outcome.passes)) = some [true, false] := by
    decide +kernel
  rw [built] at decided
  exact ⟨structured, rfl, complete, entries, built, Option.some.inj decided⟩

end PlanTask
end CourseAudit
