import CourseAudit.Proofs.Completeness
import CourseAudit.Proofs.Service
import Mathlib.Data.List.TakeWhile

/-!
What is answered about the completeness of a task. Both traversals are behind one answer, and what
they say fits together.
-/
namespace CourseAudit

/-- Nothing is left of a text without its blanks when it has nothing but blanks. -/
theorem Text.trim_eq_empty_iff {s : String} : trim s = "" ↔ isBlankText s = true := by
  have front : ∀ cs : List Char, (∀ c ∈ cs.dropWhile isBlank, isBlank c = true) ↔
      cs.dropWhile isBlank = [] := by
    intro cs
    refine ⟨fun all => ?_, fun none => by simp [none]⟩
    by_contra rest
    have first := List.head_dropWhile_not isBlank rest
    rw [all _ (List.head_mem rest)] at first
    cases first
  rw [trim, String.ofList_eq_empty_iff, trimBoth, List.reverse_eq_nil_iff,
    List.dropWhile_eq_nil_iff, isBlankText, List.all_eq_true]
  simp only [List.mem_reverse]
  rw [front, List.dropWhile_eq_nil_iff]

namespace PlanTask

variable {catalog : Catalog} {t : PlanTask}

/-- A task with a text for a name can be saved when it is complete and the name is not blank. -/
theorem isSavable_eq {name : String} (named : t.name = .text name) {complete savable : Bool}
    (hc : t.isComplete catalog = .ok complete) (hs : t.isSavable catalog = .ok savable) :
    savable = (complete && decide (Text.trim name ≠ "")) := by
  have blank : Text.isBlankText name = decide (Text.trim name = "") := by
    rw [Bool.eq_iff_iff, decide_eq_true_iff, Text.trim_eq_empty_iff]
  have bare : name.isEmpty = true → Text.isBlankText name = true := by
    intro empty
    rw [String.isEmpty_iff.mp empty]
    rfl
  simp only [isSavable, named, Value.isSet, Value.asText?, hc] at hs
  cases hb : Text.isBlankText name with
  | true =>
      rw [hb] at hs blank
      have none : savable = false := by
        split at hs
        all_goals exact (Except.ok.inj hs).symm
      rw [none, decide_not, ← blank, Bool.not_true, Bool.and_false]
  | false =>
      have filled : name.isEmpty = false := by
        cases he : name.isEmpty with
        | false => rfl
        | true => exact absurd ((bare he).symm.trans hb) (by decide)
      rw [hb] at hs blank
      rw [filled] at hs
      rw [← Except.ok.inj hs, decide_not, ← blank, Bool.not_false, Bool.and_true]

/-- A list of gaps is what the conditions of a task lack, in document order. A condition is found
incomplete exactly when some of the gaps are its own, and each of its gaps says where it is. -/
structure Lists (catalog : Catalog) (t : PlanTask) (found : List Gap) : Prop where
  gaps : found = t.occurrences.flatMap fun o => o.2.missing catalog o.1.id
  complete : t.isComplete catalog = .ok found.isEmpty
  incomplete : ∀ o ∈ t.occurrences,
    o.2.isIncomplete catalog = .ok (!(o.2.missing catalog o.1.id).isEmpty)
  places : ∀ o ∈ t.occurrences, ∀ gap ∈ o.2.missing catalog o.1.id,
    gap.groupId = o.1.id ∧ gap.conditionId = o.2.id ∧
      ((gap.kind ∈ GapKind.ofCondition ∧ gap.subConditionId = .null) ∨
        gap.kind ∈ GapKind.ofSubCondition ∧
          ∃ s ∈ o.2.subConditions.records, gap.subConditionId = s.id)

theorem lists_of_gaps {found : List Gap} (h : t.gaps catalog = .ok found) :
    t.Lists catalog found := by
  obtain ⟨rfl, decided, each⟩ := gaps_eq_ok h
  refine ⟨rfl, ?_, each, ?_⟩
  · rw [isComplete, decided]
    exact congrArg Except.ok (Bool.not_not _)
  · intro o _ gap member
    obtain ⟨group, condition, ⟨none, own, -⟩ | ⟨s, inside, sub, part, -⟩⟩ :=
      Condition.mem_missing_iff.mp member
    · exact ⟨group, condition, .inl ⟨own, none⟩⟩
    · exact ⟨group, condition, .inr ⟨part, s, inside, sub⟩⟩

end PlanTask

theorem Payload.validateFields_defaultsFit : validateFields.DefaultsFit := by
  refine ⟨?_, task_defaultsFit, trivial⟩
  exact fun v none => absurd none.symm (Option.some_ne_none v)

namespace Service

/-- What an answer about a task says, and how its parts fit together. -/
def Validated (t : PlanTask) (body : Body) : Prop :=
  ∃ valid savable issues shown gaps,
    body = .json (.dict [("valid", .bool valid), ("savable", .bool savable),
      ("issues", .list issues), ("allowedDisplayTypes", shown)]) ∧
    t.gaps Catalog.standard = .ok gaps ∧ issues = gaps.map (fun gap => (gapValue gap).finite) ∧
    (savable = true → valid = true) ∧ (valid = true ↔ issues = []) ∧
    (savable ≠ valid → ∃ name, t.name = .text name ∧ Text.trim name = "")

variable {outside : Surroundings} {s : Service} {r : Request}

theorem validated_of_validate {t : PlanTask} {name : String} (named : t.name = .text name)
    {reply : Reply} {after : Service} (h : s.validate t = .ok (reply, after)) :
    Validated t reply.body := by
  unfold validate at h
  split at h
  · cases h
  · next gaps listed =>
      dsimp only at h
      split at h
      · next savable allowed hs _ =>
          cases h
          have complete := (PlanTask.lists_of_gaps listed).complete
          have saved := PlanTask.isSavable_eq named complete hs
          refine ⟨gaps.isEmpty, savable, gaps.map fun gap => (gapValue gap).finite,
            (Value.texts (allowed.map DisplayType.label)).finite, gaps, ?_, listed, rfl, ?_, ?_, ?_⟩
          · simp only [ok, Value.finite, Value.finiteEntries, Value.finiteItems_eq_map,
              List.map_map, Function.comp_def]
          · rw [saved]
            exact fun both => (Bool.and_eq_true_iff.mp both).1
          · rw [List.isEmpty_iff, List.map_eq_nil_iff]
          · intro differ
            refine ⟨name, named, ?_⟩
            by_contra filled
            rw [saved, decide_eq_true filled, Bool.and_true] at differ
            exact differ rfl
      · cases h

/-- The two traversals of every task agree, whatever has been put into it: they find a task complete
together, and where gaps can be listed, the list is that of the incomplete conditions. Nothing keeps
the gaps of a well typed task from being listed, and every answer about a task says what they do. -/
theorem completeness_agrees :
    (∀ catalog (t : PlanTask), t.gaps catalog = .ok [] ↔ t.isComplete catalog = .ok true) ∧
      (∀ catalog (t : PlanTask) gaps, t.gaps catalog = .ok gaps → t.Lists catalog gaps) ∧
      (∀ catalog (t : PlanTask), t.WellTyped → ∃ gaps, t.gaps catalog = .ok gaps) ∧
      ∀ outside (s : Service) r, Destination.of r.method r.path = .found .validate →
        (s.step outside r).1.status = 200 →
          ∃ v, r.read Payload.validateFields = .ok v ∧
            (PlanTask.ofPayload (v.part "task")).WellTyped ∧
            Validated (PlanTask.ofPayload (v.part "task")) (s.step outside r).1.body := by
  refine ⟨fun _ _ => PlanTask.gaps_eq_nil_iff, fun _ _ _ => PlanTask.lists_of_gaps,
    fun catalog t typed => typed.gaps_total catalog, ?_⟩
  intro outside s r destination status
  obtain ⟨requestId, reply, after, answered, same, body⟩ := step_answered
    (show (s.step outside r).1.status ≠ 500 by rw [status]; decide)
  rw [dispatch, destination] at answered
  obtain ⟨v, reading, validated⟩ := withContent_ok answered (same.symm.trans status)
  have fits := (Request.read_fits Payload.validateFields_defaultsFit reading).part "task" rfl
  obtain ⟨name, named⟩ := fits.part "name" rfl
  refine ⟨v, reading, PlanTask.wellTyped_ofPayload fits, ?_⟩
  rw [body]
  exact validated_of_validate named validated

/-- A task with a blank name and a condition that lacks nothing. -/
def blankName : Request where
  method := "POST"
  path := "/compliance/validate"
  query := []
  headers := [("Content-Type", "application/json")]
  content := .value (.dict [("task", .dict [("name", .text " \t"),
    ("conditionGroups", .list [.dict [("conditions", .list [.dict [
      ("groupType", .text "Attribute condition"), ("source", .text "Section"),
      ("property", .text "Name"), ("operator", .text "Is empty")]])]])])])

def quiet : Surroundings := ⟨"1", .int 0, "", ⟨2025, 10, 1, by decide⟩⟩

/-- The task is complete and can all the same not be saved. -/
theorem completeness_agrees_blankName :
    Destination.of blankName.method blankName.path = .found .validate ∧
      ((start ⟨[]⟩ Catalog.standard).step quiet blankName).1.status = 200 ∧
      ∃ v, blankName.read Payload.validateFields = .ok v ∧
        (PlanTask.ofPayload (v.part "task")).WellTyped ∧
        Validated (PlanTask.ofPayload (v.part "task"))
          ((start ⟨[]⟩ Catalog.standard).step quiet blankName).1.body ∧
        (PlanTask.ofPayload (v.part "task")).isComplete Catalog.standard = .ok true ∧
        (PlanTask.ofPayload (v.part "task")).isSavable Catalog.standard = .ok false := by
  have destination : Destination.of blankName.method blankName.path = .found .validate := by
    decide +kernel
  have status : ((start ⟨[]⟩ Catalog.standard).step quiet blankName).1.status = 200 := by
    decide +kernel
  obtain ⟨v, reading, typed, validated⟩ :=
    completeness_agrees.2.2.2 quiet (start ⟨[]⟩ Catalog.standard) blankName destination status
  have checked : (blankName.read Payload.validateFields).toOption.map (fun v =>
      ((PlanTask.ofPayload (v.part "task")).isComplete Catalog.standard,
        (PlanTask.ofPayload (v.part "task")).isSavable Catalog.standard)) =
      some (.ok true, .ok false) := by
    decide +kernel
  rw [reading] at checked
  obtain ⟨complete, unsavable⟩ := Prod.mk.inj (Option.some.inj checked)
  exact ⟨destination, status, v, reading, typed, validated, complete, unsavable⟩

end Service
end CourseAudit
