import CourseAudit.Evaluation.Completeness
import CourseAudit.Proofs.Task

/-!
The two traversals of what is missing. The one that asks up to the first gap and the one that lists
every gap agree on each condition, and the list is what each condition of each group lacks, in the
order in which they stand in the task.
-/
namespace CourseAudit

namespace GapKind

/-- What may be missing of a condition itself. -/
def ofCondition : List GapKind :=
  [.groupType, .source, .property, .operator, .value, .subConditions]

/-- What may be missing of one of its sub-conditions. -/
def ofSubCondition : List GapKind := [.subProperty, .subOperator, .subValue]

end GapKind

/-- Whether a sub-condition lacks something of a kind. -/
def SubCondition.lacks (s : SubCondition) : GapKind → Bool
  | .subProperty => s.lacksProperty
  | .subOperator => lacksOperator s.property s.operator
  | .subValue => (lacksValue s.operator s.value).holds
  | _ => false

/-- Whether a condition itself lacks something of a kind. -/
def Condition.lacks (catalog : Catalog) (c : Condition) : GapKind → Bool
  | .groupType => c.lacksGroupType
  | .source => c.lacksSource
  | .property => c.lacksProperty
  | .operator => lacksOperator c.property c.operator
  | .value => (lacksValue c.operator c.value).holds
  | .subConditions => (c.lacksSubConditions catalog).holds
  | _ => false

/-- What a condition of a group lacks: first itself, and then its sub-conditions one by one. -/
def Condition.missing (catalog : Catalog) (groupId : Value) (c : Condition) : List Gap :=
  (GapKind.ofCondition.filter (c.lacks catalog)).map (⟨groupId, c.id, .null, ·⟩) ++
    c.subConditions.records.flatMap fun s =>
      (GapKind.ofSubCondition.filter s.lacks).map (⟨groupId, c.id, s.id, ·⟩)

section FoundGaps

variable {tests : List (GapKind × Test)} {found : List GapKind}

/-- Kinds are only listed when every question has an answer. -/
theorem foundGaps_eq_ok (h : foundGaps tests = .ok found) {lacks : GapKind → Bool}
    (named : ∀ e ∈ tests, e.2.holds = lacks e.1) :
    (∀ e ∈ tests, ∃ b, e.2 = .ok b) ∧ found = (tests.map (·.1)).filter lacks := by
  induction tests generalizing found with
  | nil =>
      cases h
      exact ⟨by simp, rfl⟩
  | cons e rest ih =>
      obtain ⟨b, hb, h⟩ := bind_eq_ok_iff.mp h
      obtain ⟨others, ho, h⟩ := bind_eq_ok_iff.mp h
      obtain ⟨first, later⟩ := List.forall_mem_cons.mp named
      obtain ⟨answered, rfl⟩ := ih ho later
      refine ⟨List.forall_mem_cons.mpr ⟨⟨b, hb⟩, answered⟩, ?_⟩
      rw [← Except.ok.inj h, List.map_cons, List.filter_cons, ← first, hb, Test.holds_ok]

theorem foundGaps_of_no (h : ∀ e ∈ tests, e.2 = .ok false) : foundGaps tests = .ok [] := by
  induction tests with
  | nil => rfl
  | cons e rest ih =>
      obtain ⟨first, later⟩ := List.forall_mem_cons.mp h
      obtain ⟨kind, test⟩ := e
      subst first
      rw [foundGaps, ok_bind, ih later]
      rfl

theorem foundGaps_total (h : ∀ e ∈ tests, ∃ b, e.2 = .ok b) :
    ∃ found, foundGaps tests = .ok found := by
  induction tests with
  | nil => exact ⟨[], rfl⟩
  | cons e rest ih =>
      obtain ⟨⟨b, first⟩, later⟩ := List.forall_mem_cons.mp h
      obtain ⟨others, ho⟩ := ih later
      obtain ⟨kind, test⟩ := e
      subst first
      exact ⟨_, by rw [foundGaps, ok_bind, ho]; rfl⟩

end FoundGaps

namespace SubCondition

variable {s : SubCondition}

theorem isIncomplete_eq_ok (value : ∃ b, lacksValue s.operator s.value = .ok b) :
    s.isIncomplete = .ok (GapKind.ofSubCondition.any s.lacks) := by
  rw [isIncomplete, Test.eq_ok_holds value, Test.ite_yes]
  simp only [GapKind.ofSubCondition, List.any_cons, List.any_nil, lacks, Bool.or_assoc,
    Bool.or_false]

theorem gaps_eq_ok {found : List GapKind} (h : s.gaps = .ok found) :
    found = GapKind.ofSubCondition.filter s.lacks ∧
      s.isIncomplete = .ok (GapKind.ofSubCondition.any s.lacks) := by
  obtain ⟨answered, found⟩ := @foundGaps_eq_ok _ _ h s.lacks (by simp [lacks])
  simp only [List.forall_mem_cons] at answered
  exact ⟨found, isIncomplete_eq_ok answered.2.2.1⟩

/-- Of a sub-condition that is found complete nothing is listed. -/
theorem gaps_of_complete (h : s.isIncomplete = .ok false) : s.gaps = .ok [] := by
  unfold isIncomplete at h
  split at h
  · cases h
  · next early =>
      rw [Bool.or_eq_true, not_or, Bool.not_eq_true, Bool.not_eq_true] at early
      refine foundGaps_of_no ?_
      simp only [List.forall_mem_cons, early, h, List.not_mem_nil, false_imp_iff, implies_true,
        and_self]

end SubCondition

namespace Condition

variable {catalog : Catalog} {c : Condition}

theorem isEmpty_missing (groupId : Value) : (c.missing catalog groupId).isEmpty =
    !(GapKind.ofCondition.any (c.lacks catalog) ||
      c.subConditions.records.any fun s => GapKind.ofSubCondition.any s.lacks) := by
  rw [Bool.eq_iff_iff, missing]
  simp only [Bool.not_eq_true', Bool.or_eq_false_iff, List.isEmpty_iff, List.append_eq_nil_iff,
    List.map_eq_nil_iff, List.filter_eq_nil_iff, List.flatMap_eq_nil_iff, List.any_eq_false,
    Bool.not_eq_true]

theorem isIncomplete_eq_ok (value : ∃ b, lacksValue c.operator c.value = .ok b)
    (subs : ∃ b, c.lacksSubConditions catalog = .ok b) (only : c.subConditions.OnlyRecords)
    (each : ∀ s ∈ c.subConditions.records,
      s.isIncomplete = .ok (GapKind.ofSubCondition.any s.lacks)) (groupId : Value) :
    c.isIncomplete catalog = .ok (!(c.missing catalog groupId).isEmpty) := by
  have asked : (c.subConditions.members >>= Test.any (Slot.test SubCondition.isIncomplete)) =
      .ok (c.subConditions.records.any fun s => GapKind.ofSubCondition.any s.lacks) := by
    rw [only.any_members]
    exact Test.any_eq_ok each
  rw [isEmpty_missing, Bool.not_not, isIncomplete, asked, Test.eq_ok_holds value,
    Test.eq_ok_holds subs, Test.or_ok, Test.or_ok, Test.ite_yes]
  simp only [GapKind.ofCondition, List.any_cons, List.any_nil, lacks, Bool.or_assoc,
    Bool.false_or]

/-- The gaps of a condition are its own and those gathered from its sub-conditions. -/
theorem gaps_eq_gather (groupId : Value) : c.gaps catalog groupId = do
    let own ← c.ownGaps catalog
    let subs ← c.subConditions.gather fun s => do
      return (← s.gaps).map fun kind => ⟨groupId, c.id, s.id, kind⟩
    return own.map (fun kind => ⟨groupId, c.id, .null, kind⟩) ++ subs := by
  unfold gaps Slots.gather
  cases c.ownGaps catalog with
  | error fault => rfl
  | ok own =>
      cases c.subConditions.members with
      | error fault => rfl
      | ok members =>
          rw [ok_bind, ok_bind, ok_bind, ok_bind, bind_assoc]
          rfl

theorem gaps_eq_ok {groupId : Value} {found : List Gap} (h : c.gaps catalog groupId = .ok found) :
    found = c.missing catalog groupId ∧
      c.isIncomplete catalog = .ok (!(c.missing catalog groupId).isEmpty) := by
  rw [gaps_eq_gather] at h
  obtain ⟨own, ho, h⟩ := bind_eq_ok_iff.mp h
  obtain ⟨subs, hs, h⟩ := bind_eq_ok_iff.mp h
  obtain ⟨answered, rfl⟩ := @foundGaps_eq_ok _ _ ho (c.lacks catalog) (by simp [lacks])
  simp only [List.forall_mem_cons] at answered
  obtain ⟨rfl, each⟩ := @Slots.gather_eq_ok _ _ _ _ (fun s =>
    (GapKind.ofSubCondition.filter s.lacks).map (⟨groupId, c.id, s.id, ·⟩)) _ hs (by
      intro s part given
      obtain ⟨kinds, listed, same⟩ := bind_eq_ok_iff.mp given
      rw [← Except.ok.inj same, (SubCondition.gaps_eq_ok listed).1])
  refine ⟨(Except.ok.inj h).symm, isIncomplete_eq_ok answered.2.2.2.2.1 answered.2.2.2.2.2.1
    (Slots.onlyRecords_of_gather hs) ?_ groupId⟩
  intro s member
  obtain ⟨part, given⟩ := each s member
  obtain ⟨kinds, listed, -⟩ := bind_eq_ok_iff.mp given
  exact (SubCondition.gaps_eq_ok listed).2

/-- Of a condition that is found complete nothing is listed. -/
theorem gaps_of_complete (h : c.isIncomplete catalog = .ok false) (groupId : Value) :
    c.gaps catalog groupId = .ok [] := by
  unfold isIncomplete at h
  split at h
  · cases h
  · next early =>
      obtain ⟨value, h⟩ := Test.or_eq_no_iff.mp h
      obtain ⟨subs, asked⟩ := Test.or_eq_no_iff.mp h
      simp only [Bool.or_eq_true, not_or, Bool.not_eq_true] at early
      have own : c.ownGaps catalog = .ok [] := by
        refine foundGaps_of_no ?_
        simp only [List.forall_mem_cons, early, value, subs, List.not_mem_nil, false_imp_iff,
          implies_true, and_self]
      have only := Slots.onlyRecords_of_any asked
      rw [only.any_members, Test.any_eq_no_iff] at asked
      have none : ∀ s ∈ c.subConditions.records, (do
          return (← s.gaps).map fun kind => (⟨groupId, c.id, s.id, kind⟩ : Gap)) = .ok [] := by
        intro s member
        rw [SubCondition.gaps_of_complete (asked s member)]
        rfl
      rw [gaps_eq_gather, own, only.gather_nil none]
      rfl

end Condition

namespace ConditionGroup

variable {catalog : Catalog} {g : ConditionGroup}

theorem gaps_eq_ok {found : List Gap} (h : g.gaps catalog = .ok found) :
    g.conditions.OnlyRecords ∧ found = g.conditions.records.flatMap (·.missing catalog g.id) ∧
      ∀ c ∈ g.conditions.records,
        c.isIncomplete catalog = .ok (!(c.missing catalog g.id).isEmpty) := by
  obtain ⟨same, each⟩ := Slots.gather_eq_ok h fun c part given => (Condition.gaps_eq_ok given).1
  refine ⟨Slots.onlyRecords_of_gather h, same, fun c member => ?_⟩
  obtain ⟨part, given⟩ := each c member
  exact (Condition.gaps_eq_ok given).2

/-- Of a group whose conditions are found complete nothing is listed. -/
theorem gaps_of_complete
    (h : (g.conditions.members >>= Test.any (Slot.test (Condition.isIncomplete catalog))) =
      .ok false) : g.gaps catalog = .ok [] := by
  have only := Slots.onlyRecords_of_any h
  rw [only.any_members, Test.any_eq_no_iff] at h
  exact only.gather_nil fun c member => Condition.gaps_of_complete (h c member) g.id

end ConditionGroup

namespace PlanTask

variable {catalog : Catalog} {t : PlanTask}

/-- Everything that the conditions of a task lack, in document order. -/
def missing (catalog : Catalog) (t : PlanTask) : List Gap :=
  t.occurrences.flatMap fun o => o.2.missing catalog o.1.id

/-- The question asked of a task is the question asked of every condition in its place. -/
theorem isIncomplete_eq_any (groups : t.groups.OnlyRecords)
    (each : ∀ g ∈ t.groups.records, g.conditions.OnlyRecords) :
    t.isIncomplete catalog = Test.any (fun o => o.2.isIncomplete catalog) t.occurrences := by
  obtain ⟨slots, reading, only, records⟩ := conditions_of_groups groups each
  have asked := only.any_members (Condition.isIncomplete catalog)
  rw [records, ← occurrences_conditions, Test.any_map] at asked
  rw [isIncomplete, reading, ← asked]
  rfl

theorem gaps_eq_ok {found : List Gap} (h : t.gaps catalog = .ok found) :
    found = t.missing catalog ∧ t.isIncomplete catalog = .ok (!(t.missing catalog).isEmpty) ∧
      ∀ o ∈ t.occurrences,
        o.2.isIncomplete catalog = .ok (!(o.2.missing catalog o.1.id).isEmpty) := by
  obtain ⟨same, listed⟩ :=
    Slots.gather_eq_ok h fun g part given => (ConditionGroup.gaps_eq_ok given).2.1
  have groups : ∀ g ∈ t.groups.records, g.conditions.OnlyRecords ∧ ∀ c ∈ g.conditions.records,
      c.isIncomplete catalog = .ok (!(c.missing catalog g.id).isEmpty) := by
    intro g member
    obtain ⟨part, given⟩ := listed g member
    exact ⟨(ConditionGroup.gaps_eq_ok given).1, (ConditionGroup.gaps_eq_ok given).2.2⟩
  have each : ∀ o ∈ t.occurrences,
      o.2.isIncomplete catalog = .ok (!(o.2.missing catalog o.1.id).isEmpty) := by
    intro o member
    obtain ⟨g, inside, member⟩ := List.mem_flatMap.mp member
    obtain ⟨c, stands, rfl⟩ := List.mem_map.mp member
    exact (groups g inside).2 c stands
  refine ⟨?_, ?_, each⟩
  · rw [same, missing, occurrences, List.flatMap_assoc]
    simp only [List.flatMap_map]
  · rw [isIncomplete_eq_any (Slots.onlyRecords_of_gather h) fun g member => (groups g member).1,
      Test.any_eq_ok each]
    refine congrArg Except.ok (Bool.eq_iff_iff.mpr ?_)
    simp only [missing, List.any_eq_true, Bool.not_eq_true', List.isEmpty_eq_false_iff, ne_eq,
      List.flatMap_eq_nil_iff, not_forall, exists_prop]

/-- Of a task that is found complete nothing is listed. -/
theorem gaps_of_complete (h : t.isIncomplete catalog = .ok false) : t.gaps catalog = .ok [] := by
  obtain ⟨slots, reading, asked⟩ := bind_eq_ok_iff.mp h
  obtain ⟨members, hm, reading⟩ := bind_eq_ok_iff.mp reading
  obtain ⟨lists, through, same⟩ := bind_eq_ok_iff.mp reading
  cases same
  have groups : t.groups.OnlyRecords := by
    refine @Slots.onlyRecords_of_mapM _ _ _ (fun g => g.conditions.members) lists ?_
    rw [hm]
    exact through
  refine groups.gather_nil fun g member => ?_
  -- The conditions of all groups were asked in one list, of which each group has its own part.
  have listed := groups.mapM_members fun g => g.conditions.members
  rw [hm] at listed
  obtain ⟨found, inside, given⟩ := eq_ok_of_mapM (listed.symm.trans through) member
  have complete : (g.conditions.members >>= Test.any (Slot.test (Condition.isIncomplete catalog))) =
      .ok false := by
    rw [given, ok_bind, Test.any_eq_no_iff]
    intro slot stands
    exact Test.any_eq_no_iff.mp asked slot (List.mem_flatten.mpr ⟨found, inside, stands⟩)
  exact ConditionGroup.gaps_of_complete complete

theorem gaps_eq_nil_iff : t.gaps catalog = .ok [] ↔ t.isComplete catalog = .ok true := by
  rw [isComplete, map_eq_ok_iff]
  constructor
  · intro h
    obtain ⟨none, complete, -⟩ := gaps_eq_ok h
    rw [← none] at complete
    exact ⟨false, complete, rfl⟩
  · rintro ⟨b, h, no⟩
    cases b with
    | false => exact gaps_of_complete h
    | true => cases no

end PlanTask

/-- Each gap says where it is: the group, the condition, and the sub-condition if it is one of its
gaps. -/
theorem Condition.mem_missing_iff {catalog : Catalog} {c : Condition} {groupId : Value}
    {gap : Gap} : gap ∈ c.missing catalog groupId ↔ gap.groupId = groupId ∧ gap.conditionId = c.id ∧
      ((gap.subConditionId = .null ∧ gap.kind ∈ GapKind.ofCondition ∧
          c.lacks catalog gap.kind = true) ∨
        ∃ s ∈ c.subConditions.records, gap.subConditionId = s.id ∧
          gap.kind ∈ GapKind.ofSubCondition ∧ s.lacks gap.kind = true) := by
  rcases gap with ⟨group, condition, sub, kind⟩
  simp only [missing, List.mem_append, List.mem_map, List.mem_filter, List.mem_flatMap,
    Gap.mk.injEq]
  constructor
  · rintro (⟨kind, ⟨listed, lacks⟩, rfl, rfl, rfl, rfl⟩ |
      ⟨s, member, kind, ⟨listed, lacks⟩, rfl, rfl, rfl, rfl⟩)
    · exact ⟨rfl, rfl, .inl ⟨rfl, listed, lacks⟩⟩
    · exact ⟨rfl, rfl, .inr ⟨s, member, rfl, listed, lacks⟩⟩
  · rintro ⟨rfl, rfl, ⟨rfl, listed, lacks⟩ | ⟨s, member, rfl, listed, lacks⟩⟩
    · exact .inl ⟨kind, ⟨listed, lacks⟩, rfl, rfl, rfl, rfl⟩
    · exact .inr ⟨s, member, kind, ⟨listed, lacks⟩, rfl, rfl, rfl, rfl⟩

theorem Value.IsText.key_total {v : Value} (h : v.IsText) : ∃ name, v.key = .ok name := by
  obtain ⟨s, hs⟩ := h
  cases v with
  | text s => exact ⟨_, rfl⟩
  | choice c => exact ⟨_, rfl⟩
  | _ => cases hs

theorem Value.IsText.requiresValue_total {operator : Value} (h : operator.IsText) :
    ∃ b, Operator.requiresValue operator = .ok b := by
  obtain ⟨name, hn⟩ := h.key_total
  unfold Operator.requiresValue
  rw [hn, ok_bind]
  split
  · cases name <;> exact ⟨_, rfl⟩
  · exact ⟨false, rfl⟩

theorem Value.IsText.lacksValue_total {operator : Value} (h : operator.IsText) (value : Value) :
    ∃ b, lacksValue operator value = .ok b :=
  Test.and_total h.requiresValue_total ⟨_, rfl⟩

namespace Condition

variable {c : Condition}

theorem WellTyped.ruleOf_total (h : c.WellTyped) (catalog : Catalog) :
    ∃ rule, catalog.ruleOf c = .ok rule := by
  obtain ⟨group, hg⟩ := GroupType.ofValue?_total h.groupType
  obtain ⟨source, hs⟩ := h.source.key_total
  obtain ⟨property, hp⟩ := h.property.key_total
  unfold Catalog.ruleOf Catalog.lookup
  rw [hg, hs, hp, ok_bind]
  cases group with
  | none => exact ⟨none, rfl⟩
  | some group =>
      dsimp only
      split
      · cases source <;> cases property <;> exact ⟨_, rfl⟩
      · exact ⟨none, rfl⟩

theorem WellTyped.lacksSubConditions_total (h : c.WellTyped) (catalog : Catalog) :
    ∃ b, c.lacksSubConditions catalog = .ok b := by
  refine Test.and_total ?_ ⟨_, rfl⟩
  obtain ⟨rule, hr⟩ := h.ruleOf_total catalog
  unfold needsSubConditions
  rw [hr, ok_bind]
  cases rule <;> exact ⟨_, rfl⟩

theorem WellTyped.gaps_total (h : c.WellTyped) (catalog : Catalog) (groupId : Value) :
    ∃ found, c.gaps catalog groupId = .ok found := by
  have own : ∃ kinds, c.ownGaps catalog = .ok kinds := by
    refine foundGaps_total ?_
    simp only [List.forall_mem_cons]
    exact ⟨⟨_, rfl⟩, ⟨_, rfl⟩, ⟨_, rfl⟩, ⟨_, rfl⟩, h.operator.lacksValue_total c.value,
      h.lacksSubConditions_total catalog, by simp⟩
  have subs : ∀ s : SubCondition, s.WellTyped → ∃ part, (do
      return (← s.gaps).map fun kind => (⟨groupId, c.id, s.id, kind⟩ : Gap)) = .ok part := by
    intro s typed
    have total : ∃ kinds, s.gaps = .ok kinds := by
      refine foundGaps_total ?_
      simp only [List.forall_mem_cons]
      exact ⟨⟨_, rfl⟩, ⟨_, rfl⟩, typed.operator.lacksValue_total s.value, by simp⟩
    obtain ⟨kinds, listed⟩ := total
    exact ⟨_, by rw [listed]; rfl⟩
  obtain ⟨kinds, ho⟩ := own
  obtain ⟨found, hs⟩ := h.subConditions.gather_total subs
  exact ⟨_, by rw [gaps_eq_gather, ho, ok_bind, hs]; rfl⟩

end Condition

/-- Nothing keeps the gaps of a well typed task from being listed. -/
theorem PlanTask.WellTyped.gaps_total {t : PlanTask} (h : t.WellTyped) (catalog : Catalog) :
    ∃ found, t.gaps catalog = .ok found :=
  h.groups.gather_total fun g typed =>
    typed.conditions.gather_total fun _ typed => typed.gaps_total catalog g.id

/-- Whether a well typed task is complete is always decided. -/
theorem PlanTask.WellTyped.isIncomplete_total {t : PlanTask} (h : t.WellTyped)
    (catalog : Catalog) : ∃ b, t.isIncomplete catalog = .ok b := by
  obtain ⟨gaps, listed⟩ := h.gaps_total catalog
  obtain ⟨-, checked, -⟩ := gaps_eq_ok listed
  exact ⟨_, checked⟩

end CourseAudit
