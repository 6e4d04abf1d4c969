import CourseAudit.Proofs.Labels
import CourseAudit.Proofs.Paraphrase
import CourseAudit.Proofs.Shedding
import CourseAudit.Proofs.Validation

/-!
Operators in the spelling of their labels. To a comparison all spellings of an operator are one. To
the search for what is missing they are not: an operator that judges a value alone is taken to ask
for another one wherever it is not spelled like its label.
-/
namespace CourseAudit

namespace Operator

/-- An operator as it stands, or the label of the operator that it names. -/
def Relabels (v w : Value) : Prop := w = v ∨ ∃ op, ofValue? v = some op ∧ w = .text op.label

/-- Another spelling than the label of an operator that judges a value alone. -/
def IsMisspelled (v : Value) : Prop :=
  ∃ op, ofValue? v = some op ∧ op.isValueFree = true ∧ v.asText? ≠ some op.label

/-- Relabelled, but not where nothing stands beside a misspelled operator. -/
def Keeps (v w value : Value) : Prop :=
  Relabels v w ∧ (IsMisspelled v → value.isMissing = true → w = v)

variable {v w : Value}

theorem Relabels.ofValue?_eq (h : Relabels v w) : ofValue? w = ofValue? v := by
  rcases h with rfl | ⟨op, named, rfl⟩
  · rfl
  · rw [ofValue?_label, named]

theorem Relabels.isSet_eq (h : Relabels v w) : w.isSet = v.isSet := by
  rcases h with rfl | ⟨op, named, rfl⟩
  · rfl
  · rw [isSet_of_named named, isSet_of_named (ofValue?_label op)]

theorem IsMisspelled.requiresValue_eq (h : IsMisspelled v) : requiresValue v = .ok true := by
  obtain ⟨op, named, free, spelled⟩ := h
  rw [requiresValue_of_named named, beq_eq_false_iff_ne.mpr spelled, Bool.and_false, Bool.not_false]

theorem Relabels.requiresValue_of_isMisspelled (h : Relabels v w) (spelled : IsMisspelled v) :
    w = v ∨ requiresValue w = .ok false := by
  refine h.imp_right ?_
  rintro ⟨op, named, rfl⟩
  obtain ⟨found, named', free, -⟩ := spelled
  cases named.symm.trans named'
  rw [requiresValue_label, free, Bool.not_true]

/-- A label asks for a value as another spelling did, unless that was misspelled. -/
theorem Relabels.requiresValue_or (h : Relabels v w) : requiresValue w = requiresValue v ∨
    IsMisspelled v ∧ requiresValue v = .ok true ∧ requiresValue w = .ok false := by
  by_cases spelled : IsMisspelled v
  · rcases h.requiresValue_of_isMisspelled spelled with rfl | unasked
    · exact .inl rfl
    · exact .inr ⟨spelled, spelled.requiresValue_eq, unasked⟩
  · left
    rcases h with rfl | ⟨op, named, rfl⟩
    · rfl
    · have label : op.isValueFree = true → v.asText? = some op.label := by
        intro free
        by_contra other
        exact spelled ⟨op, named, free, other⟩
      rw [requiresValue_label, requiresValue_of_named named]
      cases free : op.isValueFree with
      | false => rfl
      | true => rw [label free, beq_self_eq_true, Bool.and_true]

/-- A value is missed beside a label as it was beside another spelling, or no longer. -/
theorem Relabels.lacksValue_or (h : Relabels v w) (value : Value) :
    lacksValue w value = lacksValue v value ∨
      lacksValue v value = .ok true ∧ lacksValue w value = .ok false := by
  unfold lacksValue
  rcases h.requiresValue_or with same | ⟨-, asked, unasked⟩
  · exact .inl (by rw [same])
  · rw [asked, unasked]
    cases value.isMissing with
    | false => exact .inl rfl
    | true => exact .inr ⟨rfl, rfl⟩

theorem Relabels.lacksValue_eq_iff (h : Relabels v w) (value : Value) :
    lacksValue w value = lacksValue v value ↔ Keeps v w value := by
  unfold lacksValue
  constructor
  · intro same
    refine ⟨h, fun spelled missing => ?_⟩
    refine (h.requiresValue_of_isMisspelled spelled).resolve_right fun unasked => ?_
    rw [unasked, spelled.requiresValue_eq, missing] at same
    cases same
  · rintro ⟨-, kept⟩
    rcases h.requiresValue_or with same | ⟨spelled, asked, unasked⟩
    · rw [same]
    · cases missing : value.isMissing with
      | false =>
          rw [asked, unasked]
          rfl
      | true => rw [kept spelled missing]

theorem divides_fault {whole : Value} {fault : Fault} (h : divides whole = .error fault) :
    fault = .overflow := by
  unfold divides at h
  cases number : whole.toNumber with
  | ok found =>
      rw [number] at h
      cases found <;> cases h
  | error other =>
      rw [number] at h
      cases h
      exact Value.toNumber_fault number

/-- The display types of a number, beside an operator and a value to divide by. -/
def numberDisplays (operator whole : Value) : Except Fault (List DisplayType) := do
  if ← (requiresValue operator).and (divides whole) then
    return [.yesNo, .number, .fraction, .percent]
  else return [.yesNo, .number]

theorem Relabels.numberDisplays_or (h : Relabels v w) (whole : Value) :
    numberDisplays w whole = numberDisplays v whole ∨
      IsMisspelled v ∧ numberDisplays w whole = .ok [.yesNo, .number] ∧
      (numberDisplays v whole = .ok [.yesNo, .number, .fraction, .percent] ∨
        numberDisplays v whole = .error .overflow) := by
  unfold numberDisplays
  rcases h.requiresValue_or with same | ⟨spelled, asked, unasked⟩
  · exact .inl (by rw [same])
  · rw [asked, unasked]
    cases divided : divides whole with
    | error fault =>
        cases divides_fault divided
        exact .inr ⟨spelled, rfl, .inr rfl⟩
    | ok b =>
        cases b with
        | false => exact .inl rfl
        | true => exact .inr ⟨spelled, rfl, .inl rfl⟩

end Operator

/-- The display types that a condition offers to a task that has no other. -/
def Condition.displays (catalog : Catalog) (context : Option EvaluationContext) (c : Condition) :
    Except Fault (List DisplayType) := do
  match ← catalog.ruleOf c with
  | none => return [.yesNo]
  | some rule =>
    match rule.valueType with
    | .numeric =>
      Operator.numberDisplays c.operator (match context with
        | some context => context.resolve c.value
        | none => c.value)
    | .date => return [.yesNo, .date]
    | .text | .select => return [.yesNo, .statusLabel]
    | .none => return [.yesNo]

theorem PlanTask.allowedDisplays_eq {catalog : Catalog} {context : Option EvaluationContext}
    {t : PlanTask} : t.allowedDisplays catalog context = t.governing >>= fun governing =>
      match governing with
      | none => .ok [.yesNo]
      | some slot => slot.get >>= Condition.displays catalog context := rfl

variable {catalog : Catalog} {context : EvaluationContext} {R : Value → Value → Value → Prop}

/-- A sub-condition with another operator, as far as the value beside it allows. -/
structure SubCondition.Retold (R : Value → Value → Value → Prop) (s t : SubCondition) : Prop where
  id : t.id = s.id
  property : t.property = s.property
  value : t.value = s.value
  operator : R s.operator t.operator s.value

/-- A condition with other operators, its own and those of its sub-conditions. -/
structure Condition.Retold (R : Value → Value → Value → Prop) (c d : Condition) : Prop where
  id : d.id = c.id
  groupType : d.groupType = c.groupType
  source : d.source = c.source
  property : d.property = c.property
  value : d.value = c.value
  operator : R c.operator d.operator c.value
  subConditions : c.subConditions.Related (SubCondition.Retold R) d.subConditions

/-- A task in which some conditions and sub-conditions have other operators. -/
structure PlanTask.Retold (R : Value → Value → Value → Prop) (t u : PlanTask) : Prop where
  groups : t.groups.Related
    (fun g k => k.id = g.id ∧ g.conditions.Related (Condition.Retold R) k.conditions) u.groups
  others : u = { t with groups := u.groups }

/-- A gap where a value is missed. -/
def Gap.IsOfValue (gap : Gap) : Prop := gap.kind ∈ [GapKind.value, .subValue]

namespace SubCondition.Retold

variable {s t : SubCondition}

theorem paraphrases (h : s.Retold (fun v w _ => Operator.Relabels v w) t) :
    s.Paraphrases context t :=
  ⟨h.property, h.operator.ofValue?_eq, by rw [h.value]⟩

theorem gaps_loses (h : s.Retold (fun v w _ => Operator.Relabels v w) t) :
    Alike (Loses (· = .subValue) (s.Retold Operator.Keeps t)) s.gaps t.gaps := by
  have kept : lacksValue t.operator s.value = lacksValue s.operator s.value ↔
      s.Retold Operator.Keeps t := by
    rw [h.operator.lacksValue_eq_iff]
    exact ⟨fun keeps => ⟨h.id, h.property, h.value, keeps⟩, fun keeps => keeps.operator⟩
  have lost := foundGaps_loses (P := (· = .subValue)) rfl (h.operator.lacksValue_or s.value)
    [(.subProperty, .ok s.lacksProperty),
      (.subOperator, .ok (lacksOperator s.property s.operator))] []
  unfold gaps lacksProperty lacksOperator
  rw [h.property, h.value, h.operator.isSet_eq]
  exact lost.imp fun found less loses => loses.congr kept

theorem isIncomplete_eq (h : s.Retold Operator.Keeps t) : t.isIncomplete = s.isIncomplete := by
  have same := (h.operator.1.lacksValue_eq_iff s.value).mpr h.operator
  unfold isIncomplete lacksProperty lacksOperator
  rw [h.property, h.value, h.operator.1.isSet_eq, same]

end SubCondition.Retold

namespace Condition.Retold

variable {c d : Condition}

theorem paraphrases (h : c.Retold (fun v w _ => Operator.Relabels v w) d) :
    c.Paraphrases context d where
  groupType := h.groupType
  source := h.source
  property := h.property
  operator := h.operator.ofValue?_eq
  value := by rw [h.value]
  subConditions := h.subConditions.imp fun _ _ same => same.paraphrases

theorem ruleOf_eq (h : c.Retold R d) : catalog.ruleOf d = catalog.ruleOf c := by
  unfold Catalog.ruleOf
  rw [h.groupType, h.source, h.property]

theorem lacksSubConditions_eq (h : c.Retold R d) :
    d.lacksSubConditions catalog = c.lacksSubConditions catalog := by
  unfold lacksSubConditions needsSubConditions
  rw [h.ruleOf_eq, h.subConditions.isSet]

theorem ownGaps_loses (h : c.Retold (fun v w _ => Operator.Relabels v w) d) :
    Alike (Loses (· = .value) (lacksValue d.operator c.value = lacksValue c.operator c.value))
      (c.ownGaps catalog) (d.ownGaps catalog) := by
  have lost := foundGaps_loses (P := (· = .value)) rfl (h.operator.lacksValue_or c.value)
    [(.groupType, .ok c.lacksGroupType), (.source, .ok c.lacksSource),
      (.property, .ok c.lacksProperty), (.operator, .ok (lacksOperator c.property c.operator))]
    [(.subConditions, c.lacksSubConditions catalog)]
  unfold ownGaps lacksGroupType lacksSource lacksProperty lacksOperator
  rw [h.lacksSubConditions_eq, h.groupType, h.source, h.property, h.value, h.operator.isSet_eq]
  exact lost

theorem gaps_loses (h : c.Retold (fun v w _ => Operator.Relabels v w) d) (groupId : Value) :
    Alike (Loses Gap.IsOfValue (c.Retold Operator.Keeps d)) (c.gaps catalog groupId)
      (d.gaps catalog groupId) := by
  -- A gap names its place, so that no two kinds become the same gap.
  have place (sub : Value) : Function.Injective (Gap.mk groupId c.id sub) :=
    fun kind other same => (Gap.mk.inj same).2.2.2
  have kept : lacksValue d.operator c.value = lacksValue c.operator c.value ∧
      c.subConditions.Related (SubCondition.Retold Operator.Keeps) d.subConditions ↔
        c.Retold Operator.Keeps d := by
    rw [h.operator.lacksValue_eq_iff]
    constructor
    · rintro ⟨keeps, subs⟩
      exact ⟨h.id, h.groupType, h.source, h.property, h.value, keeps, subs⟩
    · intro keeps
      exact ⟨keeps.operator, keeps.subConditions⟩
  rw [gaps_eq_gather, gaps_eq_gather, h.id]
  refine h.ownGaps_loses.bind fun own own' lost => ?_
  have subs := h.subConditions.gather_loses (P := Gap.IsOfValue)
    (K := SubCondition.Retold Operator.Keeps)
    (f := fun s => do return (← s.gaps).map fun kind => ⟨groupId, c.id, s.id, kind⟩)
    (g := fun s => do return (← s.gaps).map fun kind => ⟨groupId, c.id, s.id, kind⟩) ?_
  · refine subs.bind fun found less later => .ok ((Loses.append ?_ later).congr kept)
    exact lost.map (fun kind same => by simp [Gap.IsOfValue, same]) (place .null)
  · intro s t same
    rw [same.id]
    refine same.gaps_loses.bind fun found less loses => .ok ?_
    exact loses.map (fun kind same => by simp [Gap.IsOfValue, same]) (place s.id)

theorem isIncomplete_eq (h : c.Retold Operator.Keeps d) :
    d.isIncomplete catalog = c.isIncomplete catalog := by
  have same := (h.operator.1.lacksValue_eq_iff c.value).mpr h.operator
  have subs : (d.subConditions.members >>= Test.any (Slot.test SubCondition.isIncomplete)) =
      (c.subConditions.members >>= Test.any (Slot.test SubCondition.isIncomplete)) :=
    (h.subConditions.any fun s t kept => kept.isIncomplete_eq.symm).symm
  unfold isIncomplete lacksGroupType lacksSource lacksProperty lacksOperator
  rw [subs, h.lacksSubConditions_eq, h.groupType, h.source, h.property, h.value,
    h.operator.1.isSet_eq, same]

/-- To divide by a value is offered in both tasks unless the operator was misspelled. -/
theorem displays_or {context : Option EvaluationContext}
    (h : c.Retold (fun v w _ => Operator.Relabels v w) d) :
    d.displays catalog context = c.displays catalog context ∨
      Operator.IsMisspelled c.operator ∧ d.displays catalog context = .ok [.yesNo, .number] ∧
      (c.displays catalog context = .ok [.yesNo, .number, .fraction, .percent] ∨
        c.displays catalog context = .error .overflow) := by
  unfold displays
  rw [h.ruleOf_eq]
  cases catalog.ruleOf c with
  | error fault => exact .inl rfl
  | ok ruled =>
      cases ruled with
      | none => exact .inl rfl
      | some rule =>
          rw [ok_bind, ok_bind]
          dsimp only
          cases rule.valueType with
          | numeric =>
              rw [h.value]
              exact h.operator.numberDisplays_or _
          | _ => exact .inl rfl

end Condition.Retold

namespace PlanTask.Retold

variable {t u : PlanTask}

theorem related (h : t.Retold R u) : t.Related (Condition.Retold R) u := by
  have others := h.others
  refine ⟨h.groups.imp fun _ _ same => same.2, ?_, ?_, ?_⟩
  · rw [others]
  · rw [others]
  · rw [others]

theorem evaluates (h : t.Retold (fun v w _ => Operator.Relabels v w) u) (s : Slot Section) :
    u.evaluate catalog context s = t.evaluate catalog context s := by
  have asked : t.Related (Condition.Paraphrases context) u := by
    obtain ⟨groups, displayType, onPass, onFailure⟩ := h.related
    refine ⟨groups.imp fun _ _ same => ?_, displayType, onPass, onFailure⟩
    exact same.imp fun _ _ retold => retold.paraphrases
  exact asked.evaluate_of_paraphrases s

theorem gaps_loses (h : t.Retold (fun v w _ => Operator.Relabels v w) u) :
    Alike (Loses Gap.IsOfValue (t.Retold Operator.Keeps u)) (t.gaps catalog) (u.gaps catalog) := by
  have lost := h.groups.gather_loses (P := Gap.IsOfValue)
    (K := fun g k =>
      k.id = g.id ∧ g.conditions.Related (Condition.Retold Operator.Keeps) k.conditions)
    (f := fun g => g.gaps catalog) (g := fun g => g.gaps catalog) ?_
  · exact lost.imp fun found less loses => loses.congr
      ⟨fun groups => ⟨groups, h.others⟩, fun keeps => keeps.groups⟩
  · rintro g k ⟨id, conditions⟩
    have inside := conditions.gather_loses (P := Gap.IsOfValue)
      (f := fun c => c.gaps catalog g.id) (g := fun c => c.gaps catalog g.id)
      fun c d retold => retold.gaps_loses g.id
    unfold ConditionGroup.gaps
    rw [id]
    exact inside.imp fun found less loses => loses.congr (and_iff_right rfl).symm

theorem isComplete_eq (h : t.Retold Operator.Keeps u) :
    u.isComplete catalog = t.isComplete catalog := by
  have asked : u.isIncomplete catalog = t.isIncomplete catalog := by
    refine (h.related.conditions.bind_eq fun slots others related => ?_).symm
    refine Test.any_congr related fun slot other same => ?_
    exact same.test fun c d kept => kept.isIncomplete_eq.symm
  rw [isComplete, asked, isComplete]

theorem isSavable_eq (h : t.Retold Operator.Keeps u) :
    u.isSavable catalog = t.isSavable catalog := by
  have name : u.name = t.name := by rw [h.others]
  unfold isSavable
  rw [name, h.isComplete_eq]

theorem allowedDisplays_or (h : t.Retold (fun v w _ => Operator.Relabels v w) u)
    (context : Option EvaluationContext) :
    u.allowedDisplays catalog context = t.allowedDisplays catalog context ∨
      (∃ slot c, t.governing = .ok (some slot) ∧ slot.get = .ok c ∧
        Operator.IsMisspelled c.operator) ∧
      u.allowedDisplays catalog context = .ok [.yesNo, .number] ∧
      (t.allowedDisplays catalog context = .ok [.yesNo, .number, .fraction, .percent] ∨
        t.allowedDisplays catalog context = .error .overflow) := by
  have governing := h.related.governing
  rw [allowedDisplays_eq, allowedDisplays_eq]
  -- Both tasks have a governing condition, or neither has one.
  generalize t.governing = found, u.governing = found' at governing
  cases governing with
  | error fault => exact .inl rfl
  | ok related =>
      cases related with
      | none => exact .inl rfl
      | some same =>
          cases same with
          | other v => exact .inl rfl
          | @own c d notes others retold =>
              refine retold.displays_or.imp_right ?_
              rintro ⟨spelled, offered, more⟩
              exact ⟨⟨_, c, rfl, rfl, spelled⟩, offered, more⟩

end PlanTask.Retold

namespace PlanTask

/-- What a task and one with relabelled operators have in common. -/
structure Relabelled (t u : PlanTask) : Prop where
  decided : t.Related (fun c d => ∀ catalog context s,
    d.decide catalog context s = c.decide catalog context s) u
  evaluated : ∀ catalog context s, u.evaluate catalog context s = t.evaluate catalog context s
  /-- Nothing comes to be missed, and nothing but values is missed no longer. -/
  listed : ∀ catalog, Alike (Sheds Gap.IsOfValue) (t.gaps catalog) (u.gaps catalog)
  /-- The same is missed exactly when every misspelled operator without a value is left alone. -/
  same : ∀ catalog found, t.gaps catalog = .ok found →
    (u.gaps catalog = .ok found ↔ t.Retold Operator.Keeps u)
  complete : ∀ catalog, t.isComplete catalog = .ok true → u.isComplete catalog = .ok true
  kept : t.Retold Operator.Keeps u → ∀ catalog, u.gaps catalog = t.gaps catalog ∧
    u.isComplete catalog = t.isComplete catalog ∧ u.isSavable catalog = t.isSavable catalog
  /-- What may be shown only changes where the operator of the only condition was misspelled. -/
  displays : ∀ catalog context,
    u.allowedDisplays catalog context = t.allowedDisplays catalog context ∨
      (∃ slot c, t.governing = .ok (some slot) ∧ slot.get = .ok c ∧
        Operator.IsMisspelled c.operator) ∧
      u.allowedDisplays catalog context = .ok [.yesNo, .number] ∧
      (t.allowedDisplays catalog context = .ok [.yesNo, .number, .fraction, .percent] ∨
        t.allowedDisplays catalog context = .error .overflow)

/-- However an operator is spelled, the evaluation is the same. What is missed is not: beside a
misspelled operator that needs no value, a value is missed until the operator is relabelled. -/
theorem relabelled {t u : PlanTask} (h : t.Retold (fun v w _ => Operator.Relabels v w) u) :
    t.Relabelled u where
  decided := by
    obtain ⟨groups, displayType, onPass, onFailure⟩ := h.related
    refine ⟨groups.imp fun _ _ same => ?_, displayType, onPass, onFailure⟩
    exact same.imp fun c d retold catalog context s => retold.paraphrases.decide_eq s
  evaluated catalog context s := h.evaluates s
  listed catalog := h.gaps_loses.imp fun _ _ loses => loses.sheds
  same catalog found listed := by
    obtain ⟨less, other, loses⟩ := h.gaps_loses.of_ok listed
    rw [other, Except.ok.injEq, loses.same]
  complete catalog complete := by
    obtain ⟨less, other, loses⟩ := h.gaps_loses.of_ok (gaps_eq_nil_iff.mpr complete)
    cases loses.sheds
    exact gaps_eq_nil_iff.mp other
  kept keeps catalog := by
    refine ⟨?_, keeps.isComplete_eq, keeps.isSavable_eq⟩
    have loses := @Retold.gaps_loses catalog _ _ h
    generalize t.gaps catalog = found, u.gaps catalog = less at loses
    cases loses with
    | error fault => rfl
    | ok loses => rw [loses.same.mpr keeps]
  displays catalog context := h.allowedDisplays_or context

/-- A task that a section passes when its name is judged so. -/
def namedTask (operator : Value) : PlanTask where
  groups := .ofList [{ conditions := .ofList [{
    groupType := .choice (.group .attribute), source := .text "Section"
    property := .text "Name", operator := operator }] }]

theorem namedTask_relabels {v w : Value} (h : Operator.Relabels v w) :
    (namedTask v).Retold (fun v w _ => Operator.Relabels v w) (namedTask w) :=
  ⟨.own (.cons (.own ⟨rfl, .own (.cons (.own ⟨rfl, rfl, rfl, rfl, rfl, h, .own .nil⟩) .nil)⟩)
    .nil), rfl⟩

/-- The misspelled operator has a value missed that no label misses. -/
theorem relabelled_namedTask :
    (namedTask (.text " is EMPTY ")).Retold (fun v w _ => Operator.Relabels v w)
        (namedTask (.text "Is empty")) ∧
      (namedTask (.text "Is empty")).evaluate Catalog.standard (.ofDay ⟨2025, 10, 1, by decide⟩)
          ({} : Section) =
        (namedTask (.text " is EMPTY ")).evaluate Catalog.standard
          (.ofDay ⟨2025, 10, 1, by decide⟩) ({} : Section) ∧
      ¬ (namedTask (.text " is EMPTY ")).Retold Operator.Keeps (namedTask (.text "Is empty")) := by
  have named : Operator.ofValue? (.text " is EMPTY ") = some .isEmpty := by decide +kernel
  have relabels : Operator.Relabels (.text " is EMPTY ") (.text "Is empty") :=
    .inr ⟨.isEmpty, named, rfl⟩
  have both := relabelled (namedTask_relabels relabels)
  refine ⟨namedTask_relabels relabels, both.evaluated _ _ _, fun keeps => ?_⟩
  have same := (both.kept keeps Catalog.standard).2.1
  have before : (namedTask (.text " is EMPTY ")).isComplete Catalog.standard = .ok false := by
    decide +kernel
  have after : (namedTask (.text "Is empty")).isComplete Catalog.standard = .ok true := by
    decide +kernel
  rw [before, after] at same
  cases same

/-- A task about the number of students, with a number to compare it with. -/
def studentsTask (operator : Value) : PlanTask where
  groups := .ofList [{ conditions := .ofList [{
    groupType := .choice (.group .lms), source := .text "Course"
    property := .text "Student count", operator := operator, value := .int 30 }] }]

/-- The same operator in other letters: what has nothing missing has a value missing, and what
offers no fraction offers one. -/
theorem spelling_matters :
    ((namedTask (.text "is empty")).Retold (fun v w _ => Operator.Relabels v w)
        (namedTask (.text "Is empty")) ∧
      (namedTask (.text "is empty")).isComplete Catalog.standard = .ok false ∧
      (namedTask (.text "Is empty")).isComplete Catalog.standard = .ok true ∧
      ((namedTask (.text "is empty")).gaps Catalog.standard).toOption.map (List.map (·.kind)) =
        some [.value] ∧
      ((namedTask (.text "Is empty")).gaps Catalog.standard).toOption.map List.length = some 0) ∧
    (studentsTask (.text "is not empty")).Retold (fun v w _ => Operator.Relabels v w)
        (studentsTask (.text "Is not empty")) ∧
      (studentsTask (.text "is not empty")).allowedDisplays Catalog.standard none =
        .ok [.yesNo, .number, .fraction, .percent] ∧
      (studentsTask (.text "Is not empty")).allowedDisplays Catalog.standard none =
        .ok [.yesNo, .number] := by
  have empty : Operator.Relabels (.text "is empty") (.text "Is empty") :=
    .inr ⟨.isEmpty, by decide +kernel, rfl⟩
  have filled : Operator.Relabels (.text "is not empty") (.text "Is not empty") :=
    .inr ⟨.isNotEmpty, by decide +kernel, rfl⟩
  have students : (studentsTask (.text "is not empty")).Retold
      (fun v w _ => Operator.Relabels v w) (studentsTask (.text "Is not empty")) :=
    ⟨.own (.cons (.own ⟨rfl, .own (.cons (.own ⟨rfl, rfl, rfl, rfl, rfl, filled, .own .nil⟩)
      .nil)⟩) .nil), rfl⟩
  refine ⟨⟨namedTask_relabels empty, ?_, ?_, ?_, ?_⟩, students, ?_, ?_⟩ <;> decide +kernel

end PlanTask
end CourseAudit
