import CourseAudit.Proofs.Obstacle
import CourseAudit.Proofs.Record
import CourseAudit.Task.Basic
import CourseAudit.Value.Vocabulary

/-!
Tasks as editors and payloads make them: groups, conditions and sub-conditions are records, and
what names something is a text, or a group type, which has one. Ids and values may be anything, and
nothing has to be complete.
-/
namespace CourseAudit

/-- A text, or a choice, which reads like one. -/
def Value.IsText (v : Value) : Prop := ∃ s, v.asText? = some s

/-- A value that can be written names a group type or none. -/
theorem GroupType.ofValue?_total {v : Value} (h : v.HasText) :
    ∃ group, GroupType.ofValue? v = .ok group := by
  obtain ⟨text, written⟩ := h
  unfold GroupType.ofValue?
  split
  · exact ⟨none, rfl⟩
  · exact ⟨_, rfl⟩
  · exact map_total _ ⟨text, written⟩

structure SubCondition.WellTyped (s : SubCondition) : Prop where
  property : s.property.IsText
  operator : s.operator.IsText

structure Condition.WellTyped (c : Condition) : Prop where
  groupType : c.groupType.HasText
  source : c.source.IsText
  property : c.property.IsText
  operator : c.operator.IsText
  subConditions : c.subConditions.Holds SubCondition.WellTyped

structure ConditionGroup.WellTyped (g : ConditionGroup) : Prop where
  conditions : g.conditions.Holds Condition.WellTyped

structure PlanTask.WellTyped (t : PlanTask) : Prop where
  groups : t.groups.Holds ConditionGroup.WellTyped
  onPass : t.onPass.Holds fun _ => True
  onFailure : t.onFailure.Holds fun _ => True

/-- Groups and conditions are records, whatever stands in their fields, and so is what a task is
presented by. -/
structure PlanTask.IsStructured (t : PlanTask) : Prop where
  groups : t.groups.OnlyRecords
  conditions : ∀ g ∈ t.groups.records, g.conditions.OnlyRecords
  onPass : t.onPass.Holds fun _ => True
  onFailure : t.onFailure.Holds fun _ => True

namespace PlanTask

/-- The conditions of each group, group by group. -/
def groupedConditions (t : PlanTask) : List (List Condition) :=
  t.groups.records.map (·.conditions.records)

/-- Every condition with the group that it stands in, in document order. -/
def occurrences (t : PlanTask) : List (ConditionGroup × Condition) :=
  t.groups.records.flatMap fun g => g.conditions.records.map (g, ·)

theorem occurrences_conditions (t : PlanTask) :
    t.occurrences.map (·.2) = t.groupedConditions.flatten := by
  simp [occurrences, groupedConditions, List.flatMap_def, Function.comp_def]

/-- The members of groups, one after the other, are the slots of their conditions. -/
theorem members_of_groups {groups : List ConditionGroup}
    (h : ∀ g ∈ groups, g.conditions.OnlyRecords) :
    ∃ found, groups.mapM (fun g => g.conditions.members) = .ok found ∧
      (Slots.own found.flatten).OnlyRecords ∧
      (Slots.own found.flatten).records = (groups.map (·.conditions.records)).flatten := by
  induction groups with
  | nil => exact ⟨[], rfl, ⟨[], rfl, rfl⟩, rfl⟩
  | cons g rest ih =>
      obtain ⟨found, reading, ⟨later, hl, rl⟩, records⟩ :=
        ih fun g member => h g (List.mem_cons_of_mem _ member)
      obtain ⟨first, hf, rf⟩ := h g List.mem_cons_self
      have joined : ((first.map fun e => Slot.own e.1 e.2) :: found).flatten =
          (first ++ later).map fun e => Slot.own e.1 e.2 := by
        rw [List.flatten_cons, List.map_append]
        exact congrArg _ (Except.ok.inj hl)
      have all : (Slots.own ((first.map fun e => Slot.own e.1 e.2) :: found).flatten).records =
          (first ++ later).map (·.1) := by
        rw [joined, Slots.records_own]
      refine ⟨(first.map fun e => Slot.own e.1 e.2) :: found, ?_, ⟨first ++ later, ?_, all⟩, ?_⟩
      · rw [List.mapM_cons, hf, reading]
        rfl
      · exact congrArg Except.ok joined
      · rw [all, List.map_append, ← rf, ← rl, records]
        rfl

/-- The conditions of a task are slots with the conditions of its groups. -/
theorem conditions_of_groups {t : PlanTask} (groups : t.groups.OnlyRecords)
    (each : ∀ g ∈ t.groups.records, g.conditions.OnlyRecords) :
    ∃ slots, t.conditions = .ok slots ∧ (Slots.own slots).OnlyRecords ∧
      (Slots.own slots).records = t.groupedConditions.flatten := by
  obtain ⟨found, reading, own, records⟩ := members_of_groups each
  refine ⟨found.flatten, ?_, own, records⟩
  have through := groups.mapM_members fun g => g.conditions.members
  rw [reading] at through
  obtain ⟨members, hm, hf⟩ := bind_eq_ok_iff.mp through
  rw [PlanTask.conditions, hm, ok_bind, hf]
  rfl

theorem WellTyped.isStructured {t : PlanTask} (h : t.WellTyped) : t.IsStructured where
  groups := h.groups.onlyRecords
  conditions := fun g member => (h.groups.records g member).conditions.onlyRecords
  onPass := h.onPass
  onFailure := h.onFailure

/-- A task shows the value of its condition when it has exactly one. -/
theorem IsStructured.governing {t : PlanTask} (h : t.IsStructured) :
    (∃ c notes, t.groupedConditions.flatten = [c] ∧ t.governing = .ok (some (.own c notes))) ∨
      (t.groupedConditions.flatten.length ≠ 1 ∧ t.governing = .ok none) := by
  obtain ⟨slots, reading, ⟨entries, same, found⟩, records⟩ :=
    conditions_of_groups h.groups h.conditions
  cases same
  rw [← records, found]
  rw [PlanTask.governing, reading, ok_bind]
  match entries with
  | [] => exact .inr ⟨by simp, rfl⟩
  | [e] => exact .inl ⟨e.1, e.2, rfl, rfl⟩
  | _ :: _ :: _ => exact .inr ⟨by simp, rfl⟩

theorem IsStructured.presentation {t : PlanTask} (h : t.IsStructured) (passes : Bool) :
    ∃ p, (t.presentation passes).get = .ok p := by
  cases passes with
  | true => exact h.onPass.get.imp fun _ found => found.1
  | false => exact h.onFailure.get.imp fun _ found => found.1

end PlanTask
end CourseAudit
