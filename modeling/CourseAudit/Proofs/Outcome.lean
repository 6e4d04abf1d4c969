import CourseAudit.Evaluation.Engine
import CourseAudit.Proofs.Decoding

/-!
What evaluating a task answers. Faults arise while values are read, compared and rendered; none of
them leaves the condition that it arises in, so the outcome is a plain or of ands.
-/
namespace CourseAudit

variable {catalog : Catalog} {context : EvaluationContext}

namespace Condition

/-- A condition is satisfied when its value can be read and compared, and compares true. -/
def IsSatisfied (catalog : Catalog) (context : EvaluationContext) (c : Condition)
    (s : Slot Section) : Prop :=
  ∃ actual, c.resolve catalog context s = .ok actual ∧
    CourseAudit.holds context actual c.operator c.value = .ok true

theorem holds_iff {c : Condition} {s : Slot Section} :
    c.holds catalog context s = true ↔ c.IsSatisfied catalog context s := by
  rw [Condition.holds, Test.holds_eq_true_iff, Condition.decide, bind_eq_ok_iff]
  rfl

/-- The value of a condition as a display type renders it, as long as it can. -/
def rendered (catalog : Catalog) (context : EvaluationContext) (type : DisplayType) (c : Condition)
    (s : Slot Section) : Except Fault String :=
  c.resolve catalog context s >>= fun actual => type.render c actual (context.resolve c.value)

end Condition

/-- The conditions of a group are asked one by one, and none of them keeps the group from an
answer. -/
theorem ConditionGroup.holds_eq_ok {g : ConditionGroup} (h : g.conditions.OnlyRecords)
    (s : Slot Section) : g.holds catalog context s =
      .ok (g.conditions.records.all fun c => c.holds catalog context s) := by
  have through := h.all_members fun c => .ok (c.holds catalog context s)
  exact through.trans (Test.all_eq_ok fun c _ => rfl)

namespace PlanTask

/-- Some group has nothing but satisfied conditions. -/
def IsSatisfied (catalog : Catalog) (context : EvaluationContext) (t : PlanTask)
    (s : Slot Section) : Prop :=
  ∃ group ∈ t.groupedConditions, ∀ c ∈ group, c.IsSatisfied catalog context s

/-- Whether a task passes is always decided, and is an or of ands. -/
theorem IsStructured.passes {t : PlanTask} (h : t.IsStructured) (s : Slot Section) :
    ∃ b, t.passes catalog context s = .ok b ∧ (b = true ↔ t.IsSatisfied catalog context s) := by
  refine ⟨t.groups.records.any fun g => g.conditions.records.all fun c =>
    c.holds catalog context s, ?_, ?_⟩
  · have through := h.groups.any_members fun g => g.holds catalog context s
    refine through.trans (Test.any_eq_ok fun g member => ?_)
    exact ConditionGroup.holds_eq_ok (h.conditions g member) s
  · simp only [List.any_eq_true, List.all_eq_true, Condition.holds_iff, IsSatisfied,
      groupedConditions, List.mem_map, exists_exists_and_eq_and]

/-- What a task shows is what its governing condition renders as. -/
theorem displayOf_valued {t : PlanTask} {type : DisplayType}
    (ht : DisplayType.ofValue? t.displayType = some type) (valued : type ≠ .yesNo) (passes : Bool)
    (slot : Slot Condition) (s : Slot Section) :
    t.displayOf context passes (some slot) (fun c => c.resolve catalog context s) =
      match slot.get >>= fun c => c.rendered catalog context type s with
      | .ok text => text
      | .error _ => notAvailable := by
  unfold displayOf
  rw [ht]
  cases type with
  | yesNo => exact absurd rfl valued
  | _ => rfl

theorem displayOf_yesNo {t : PlanTask} {governing : Option (Slot Condition)} (passes : Bool)
    (actual : Condition → Except Fault Value)
    (hidden : DisplayType.ofValue? t.displayType = none ∨
      DisplayType.ofValue? t.displayType = some .yesNo ∨ governing = none) :
    t.displayOf context passes governing actual = yesNo passes := by
  unfold displayOf
  split
  · rfl
  · rfl
  · rfl
  · next type slot valued typed =>
      rcases hidden with unknown | plain | none
      · cases unknown.symm.trans typed
      · cases plain.symm.trans typed
        exact absurd rfl valued
      · cases none

/-- Without a value to show, a task shows how it was decided. -/
theorem IsStructured.display_yesNo {t : PlanTask} (h : t.IsStructured)
    (hidden : DisplayType.ofValue? t.displayType = some .yesNo ∨
      t.groupedConditions.flatten.length ≠ 1) (passes : Bool) (s : Slot Section) :
    t.display catalog context passes s = .ok (yesNo passes) := by
  rcases h.governing with ⟨c, notes, only, found⟩ | ⟨several, found⟩
  · have plain := hidden.resolve_right fun more => more (congrArg List.length only)
    rw [display, found]
    exact congrArg Except.ok (displayOf_yesNo _ _ (.inr (.inl plain)))
  · rw [display, found]
    exact congrArg Except.ok (displayOf_yesNo _ _ (.inr (.inr rfl)))

/-- The value of a task's only condition is shown whatever the task was decided to be. -/
theorem IsStructured.display_value {t : PlanTask} (h : t.IsStructured) {type : DisplayType}
    (ht : DisplayType.ofValue? t.displayType = some type) (valued : type ≠ .yesNo)
    {c : Condition} (only : t.groupedConditions.flatten = [c]) (passes : Bool) (s : Slot Section) :
    t.display catalog context passes s =
      .ok (match c.rendered catalog context type s with
        | .ok text => text
        | .error _ => notAvailable) := by
  rcases h.governing with ⟨d, notes, same, found⟩ | ⟨several, -⟩
  · cases only.symm.trans same
    rw [display, found]
    exact congrArg Except.ok (displayOf_valued ht valued passes _ s)
  · exact absurd (congrArg List.length only) several

/-- A task always has an answer for a section: none without groups, and else an outcome made of how
it is decided, how that is shown and how it is presented. -/
theorem IsStructured.evaluate_of_get {t : PlanTask} (h : t.IsStructured) {subject : Slot Section}
    {s : Section} (given : subject.get = .ok s) :
    (t.groups.isSet = false ∧ t.evaluate catalog context subject = .ok none) ∨
      t.groups.isSet = true ∧ ∃ o, t.evaluate catalog context subject = .ok (some o) ∧
        (o.passes = true ↔ t.IsSatisfied catalog context subject) ∧
        t.display catalog context o.passes subject = .ok o.display ∧
        (t.presentation o.passes).get = .ok o.presentation := by
  cases set : t.groups.isSet with
  | false =>
      left
      refine ⟨rfl, ?_⟩
      rw [PlanTask.evaluate, set]
      rfl
  | true =>
      right
      obtain ⟨passes, decided, satisfied⟩ := @IsStructured.passes catalog context t h subject
      obtain ⟨p, presented⟩ := h.presentation passes
      have shown : ∃ text, t.display catalog context passes subject = .ok text := by
        rcases h.governing with ⟨_, _, _, found⟩ | ⟨_, found⟩
        all_goals exact ⟨_, by rw [display, found]; rfl⟩
      obtain ⟨text, displayed⟩ := shown
      refine ⟨rfl, ⟨passes, text, p⟩, ?_, satisfied, displayed, presented⟩
      rw [PlanTask.evaluate, if_pos set, decided, ok_bind, displayed, ok_bind, given,
        ok_bind, presented]
      rfl

theorem IsStructured.evaluate {t : PlanTask} (h : t.IsStructured) (s : Section) :
    (t.groups.isSet = false ∧ t.evaluate catalog context s = .ok none) ∨
      t.groups.isSet = true ∧ ∃ o, t.evaluate catalog context s = .ok (some o) ∧
        (o.passes = true ↔ t.IsSatisfied catalog context s) ∧
        t.display catalog context o.passes s = .ok o.display ∧
        (t.presentation o.passes).get = .ok o.presentation :=
  h.evaluate_of_get rfl

theorem WellTyped.isSet_iff {t : PlanTask} (h : t.WellTyped) :
    t.groups.isSet = true ↔ t.groupedConditions ≠ [] := by
  rw [h.groups.isSet_iff, groupedConditions, ne_eq, ne_eq, List.map_eq_nil_iff]

/-- What an outcome says about a task and a section: how the task is decided, which of its results
is presented, and what is shown. A value is shown whatever the decision is. -/
structure Answers (catalog : Catalog) (context : EvaluationContext) (t : PlanTask)
    (s : Slot Section) (type : DisplayType) (o : Outcome) : Prop where
  passes : o.passes = true ↔ t.IsSatisfied catalog context s
  presentation : (if o.passes then t.onPass else t.onFailure).get = .ok o.presentation
  display_yesNo : type = .yesNo ∨ t.groupedConditions.flatten.length ≠ 1 →
    o.display = if o.passes then "Yes" else "No"
  display_value : type ≠ .yesNo → ∀ c, t.groupedConditions.flatten = [c] →
    (∀ passes, t.display catalog context passes s = .ok o.display) ∧
      (∀ text, c.rendered catalog context type s = .ok text → o.display = text) ∧
        ∀ fault, c.rendered catalog context type s = .error fault → o.display = "N/A"

/-- Whatever a payload holds, the task that it is read as has an answer for every section, and has
an outcome unless it has no groups. -/
theorem evaluate_of_payload (catalog : Catalog) (context : EvaluationContext) {payload : Value}
    {t : PlanTask} (h : PlanTask.read payload = .ok t) (s : Section) :
    t.WellTyped ∧ ∃ type, t.displayType = .choice (.display type) ∧
      ((t.groupedConditions = [] ∧ t.evaluate catalog context s = .ok none) ∨
        (t.groupedConditions ≠ [] ∧ ∃ o, t.evaluate catalog context s = .ok (some o) ∧
          t.Answers catalog context s type o)) := by
  obtain ⟨v, fits, rfl⟩ := PlanTask.fits_of_read h
  have typed := PlanTask.wellTyped_ofPayload fits
  obtain ⟨type, ht⟩ := PlanTask.displayType_ofPayload fits
  have structured := typed.isStructured
  have groups := typed.isSet_iff
  refine ⟨typed, type, ht, ?_⟩
  rcases @IsStructured.evaluate catalog context _ structured s with
    ⟨unset, evaluated⟩ | ⟨set, o, evaluated, satisfied, displayed, presented⟩
  · refine .inl ⟨?_, evaluated⟩
    by_contra some
    exact absurd ((groups.mpr some).symm.trans unset) (by decide)
  have named : DisplayType.ofValue? (ofPayload v).displayType = some type := by
    rw [ht]
    cases type <;> rfl
  refine .inr ⟨groups.mp set, o, evaluated, satisfied, presented, ?_, ?_⟩
  · intro hidden
    have plain := @IsStructured.display_yesNo catalog context _ structured
      (hidden.imp_left fun same => by rw [named, same]) o.passes s
    exact Except.ok.inj (displayed.symm.trans plain)
  · intro valued c only
    have value := fun passes => @IsStructured.display_value catalog context _ structured _ named
      valued _ only passes s
    refine ⟨fun passes => ?_, fun text rendered => ?_, fun fault failed => ?_⟩
    · rw [value passes, ← value o.passes, displayed]
    · rw [value, rendered] at displayed
      exact (Except.ok.inj displayed).symm
    · rw [value, failed] at displayed
      exact (Except.ok.inj displayed).symm

/-- A group that holds an integer beyond all numbers, and a group without conditions. -/
def beyondNumbers : Value :=
  .dict [("displayType", .text "Fraction"),
    ("conditionGroups", .list [.dict [("conditions", .list [.dict [
      ("groupType", .text "Attribute condition"), ("source", .text "Section"),
      ("property", .text "Name"), ("operator", .text "Is greater than"),
      ("value", .int (Nat.pow 10 400))]])], .dict []])]

/-- The condition can be neither compared nor rendered; the empty group passes all the same. -/
theorem evaluate_beyondNumbers :
    ∃ t o, PlanTask.read beyondNumbers = .ok t ∧
      t.evaluate Catalog.standard (.ofDay ⟨2025, 10, 1, by decide⟩) ({} : Section) = .ok (some o) ∧
      o.passes = true ∧ o.display = "N/A" := by
  have reading : PlanTask.read beyondNumbers = .ok _ := rfl
  obtain ⟨-, type, ht, ⟨none, -⟩ | ⟨-, o, evaluated, answers⟩⟩ := evaluate_of_payload
    Catalog.standard (.ofDay ⟨2025, 10, 1, by decide⟩) reading ({} : Section)
  · cases none
  · cases ht
    refine ⟨_, o, reading, evaluated, answers.passes.mpr ⟨[], ?_, ?_⟩, ?_⟩
    · exact List.mem_cons_of_mem _ List.mem_cons_self
    · simp
    · exact (answers.display_value (by decide) _ rfl).2.2 .overflow (by decide +kernel)

end PlanTask
end CourseAudit
