import CourseAudit.Evaluation.Engine
import CourseAudit.Proofs.Labels
import CourseAudit.Proofs.Locality

/-!
What an editor leaves in the place of a value when the operator needs none. It has no say in the
decision of a condition, unless the property is a percentage: there it is still the whole.
-/
namespace CourseAudit

/-- A percentage as a value; where there is none there is nothing. -/
def Value.ofPercent : Option Int → Value
  | some i => .int i
  | none => .null

variable {catalog : Catalog} {context : EvaluationContext} {c : Condition} {s : Slot Section}
  {rule : PropertyRule} {items : Section → Slots LmsItem}

namespace Condition

/-- A condition with another value in the place of its own. -/
def withValue (c : Condition) (v : Value) : Condition := { c with value := v }

/-- Whether a condition is on the percentage that some items of a list are of its value. -/
def IsShareOf (c : Condition) (items : Section → Slots LmsItem) : Prop :=
  Reader.ofCondition? c = .ok (some (.measure items .percent))

/-- The items of a list that satisfy the sub-conditions of a condition. -/
def matching (catalog : Catalog) (context : EvaluationContext) (c : Condition)
    (items : Section → Slots LmsItem) (s : Slot Section) : Except Fault (List (Slot LmsItem)) := do
  filterItems context (← catalog.ruleOf c) c.subConditions (← (items (← s.get)).members)

theorem percent_named : ∀ list ∈ Reader.itemLists, ∀ part ∈ list.2.2,
    part.2 = .percent → part.1 = "Total Percent" := by
  decide

theorem IsShareOf.named (h : c.IsShareOf items) : c.property.asText? = some "Total Percent" := by
  obtain ⟨group, -, h⟩ := bind_eq_ok_iff.mp h
  cases group with
  | none => cases h
  | some group =>
      obtain ⟨source, -, h⟩ := bind_eq_ok_iff.mp h
      obtain ⟨property, named, h⟩ := bind_eq_ok_iff.mp h
      split at h
      · next source property _ =>
          have found : Reader.ofKey? ⟨group, source, property⟩ = some (.measure items .percent) :=
            Except.ok.inj h
          have listed := Reader.of_ofKey?
            (P := fun key reader => ∀ items, reader = .measure items .percent →
              key.property = "Total Percent")
            (Reader.forall_table
              (P := fun key reader => ∀ items, reader = .measure items .percent →
                key.property = "Total Percent")
              nofun nofun
              (fun list inside part measured items same =>
                percent_named list inside part measured (Reader.measure.inj same).2)
              nofun nofun nofun)
            nofun nofun found items rfl
          rw [Value.asText?_of_key named]
          exact congrArg some listed
      · have found := Except.ok.inj h
        unfold Reader.ofSource? at found
        split at found
        · cases found
        · split at found <;> cases found
      · cases h

/-- What is measured of a list is measured of its matching items. -/
theorem read_measure (ruled : catalog.ruleOf c = .ok (some rule)) (m : Measure) :
    (Reader.measure items m).read context (some rule) c s =
      c.matching catalog context items s >>= m.of context c := by
  simp only [Reader.read, matching, ruled, ok_bind, bind_assoc]

theorem matching_withValue (v : Value) :
    (c.withValue v).matching catalog context items s = c.matching catalog context items s := rfl

theorem measure_percent (kept : List (Slot LmsItem)) : Measure.percent.of context c kept =
    (percentOf (.int kept.length) (context.resolve c.value)).map Value.ofPercent := by
  rw [Measure.of]
  cases percentOf (.int kept.length) (context.resolve c.value) with
  | error fault => rfl
  | ok percent => cases percent <;> rfl

/-- The value of a condition is only looked at where it is the whole of a percentage. -/
theorem concur_resolve_withValue {v : Value}
    (same : ∀ items, c.IsShareOf items → ∀ kept, c.matching catalog context items s = .ok kept →
      Concur Eq (percentOf (.int kept.length) (context.resolve v))
        (percentOf (.int kept.length) (context.resolve c.value))) :
    Concur Eq ((c.withValue v).resolve catalog context s) (c.resolve catalog context s) := by
  refine resolve_through rfl rfl .refl fun rule reader ruled reading => ?_
  cases reader with
  | measure items m =>
      rw [read_measure ruled, read_measure (c := c.withValue v) ruled, matching_withValue]
      cases found : c.matching catalog context items s with
      | error fault => exact .error fault fault
      | ok kept =>
          cases m with
          | percent =>
              rw [ok_bind, ok_bind, measure_percent, measure_percent]
              exact (same items reading kept found).map fun i j alike => congrArg _ alike
          | _ => exact .refl _
  | _ => exact .refl _

theorem holds_withValue {v : Value} (free : Operator.requiresValue c.operator = .ok false)
    (same : ∀ items, c.IsShareOf items → ∀ kept, c.matching catalog context items s = .ok kept →
      Concur Eq (percentOf (.int kept.length) (context.resolve v))
        (percentOf (.int kept.length) (context.resolve c.value))) :
    (c.withValue v).holds catalog context s = c.holds catalog context s := by
  refine Concur.holds_eq ((concur_resolve_withValue same).bind fun actual other alike => ?_)
  have unread : CourseAudit.holds context other c.operator v =
      CourseAudit.holds context other c.operator c.value :=
    Operator.holds_of_requiresValue free other v c.value
  rw [alike]
  exact unread ▸ .refl _

/-- What a condition on a percentage finds is the percentage, or nothing where there is none. -/
theorem resolve_share (share : c.IsShareOf items) (ruled : catalog.ruleOf c = .ok (some rule)) :
    c.resolve catalog context s = c.matching catalog context items s >>= fun kept =>
      (percentOf (.int kept.length) (context.resolve c.value)).map Value.ofPercent := by
  have reads : Reader.ofCondition? c = .ok (some (.measure items .percent)) := share
  simp only [resolve, ruled, reads, ok_bind, read_measure ruled, measure_percent]

theorem holds_ofPercent {op : Operator} (asks : op ∈ [Operator.isEmpty, .isNotEmpty])
    (named : Operator.ofValue? c.operator = some op) (percent : Option Int) (expected : Value) :
    CourseAudit.holds context (.ofPercent percent) c.operator expected =
      .ok (percent.isNone == (op == .isEmpty)) := by
  rcases List.mem_pair.mp asks with rfl | rfl
  · cases percent with
    | none => exact holds_of_null named rfl
    | some i => exact holds_of_operator named rfl
  · cases percent with
    | none => exact holds_of_null named rfl
    | some i => exact holds_of_operator named rfl

/-- A percentage is empty when there is none, and there is none when nothing can be had of the
value. -/
theorem holds_share_iff (share : c.IsShareOf items) (ruled : catalog.ruleOf c = .ok (some rule))
    {op : Operator} (asks : op ∈ [Operator.isEmpty, .isNotEmpty])
    (named : Operator.ofValue? c.operator = some op) :
    c.holds catalog context s = true ↔ ∃ kept percent,
      c.matching catalog context items s = .ok kept ∧
        percentOf (.int kept.length) (context.resolve c.value) = .ok percent ∧
        percent.isNone = (op == .isEmpty) := by
  rw [holds_iff, IsSatisfied, resolve_share share ruled]
  constructor
  · rintro ⟨actual, found, held⟩
    obtain ⟨kept, matched, found⟩ := bind_eq_ok_iff.mp found
    obtain ⟨percent, divided, rfl⟩ := map_eq_ok_iff.mp found
    rw [holds_ofPercent asks named, Except.ok.injEq, beq_iff_eq] at held
    exact ⟨kept, percent, matched, divided, held⟩
  · rintro ⟨kept, percent, matched, divided, emptiness⟩
    refine ⟨.ofPercent percent, ?_, ?_⟩
    · rw [matched, ok_bind, divided]
      rfl
    · rw [holds_ofPercent asks named, emptiness, beq_self_eq_true]

/-- What the decision of a condition owes to its value when its operator asks for none. -/
structure Unread (catalog : Catalog) (context : EvaluationContext) (c : Condition) (v : Value)
    (s : Slot Section) : Prop where
  apart : c.property.asText? ≠ some "Total Percent" →
    (c.withValue v).holds catalog context s = c.holds catalog context s
  /-- The value of a percentage is its whole, and may be another one that gives the same. -/
  share : (∀ items, c.IsShareOf items → ∀ kept, c.matching catalog context items s = .ok kept →
      Concur Eq (percentOf (.int kept.length) (context.resolve v))
        (percentOf (.int kept.length) (context.resolve c.value))) →
    (c.withValue v).holds catalog context s = c.holds catalog context s
  emptiness : ∀ items rule, c.IsShareOf items → catalog.ruleOf c = .ok (some rule) →
    ∀ op ∈ [Operator.isEmpty, .isNotEmpty], Operator.ofValue? c.operator = some op →
      (c.holds catalog context s = true ↔ ∃ kept percent,
        c.matching catalog context items s = .ok kept ∧
          percentOf (.int kept.length) (context.resolve c.value) = .ok percent ∧
          percent.isNone = (op == .isEmpty))

/-- Complete or not, a condition whose operator asks for no value is decided without it, unless it
is on a percentage. -/
theorem value_unread (catalog : Catalog) (context : EvaluationContext) {c : Condition}
    (free : Operator.requiresValue c.operator = .ok false) (v : Value) (s : Slot Section) :
    c.Unread catalog context v s where
  apart other := by
    refine holds_withValue free fun items share => ?_
    exact absurd share.named other
  share := holds_withValue free
  emptiness items rule share ruled op asks named := holds_share_iff share ruled asks named

/-- A condition that there is no percentage of the assignments with a name. -/
def noShare (whole : Value) : Condition where
  groupType := .choice (.group .lms)
  source := .text "Assignments"
  property := .text "Total Percent"
  operator := .text "Is empty"
  value := whole
  subConditions := .ofList [{ property := .text "Name", operator := .text "Is not empty" }]

def oneTalk : Section where
  assignments := .ofList [{ name := .text "Talk" }]

/-- Without a value there is no percentage, and of zero there is none either. -/
theorem value_unread_noShare :
    (noShare .null).isIncomplete Catalog.standard = .ok false ∧
      Operator.requiresValue (noShare .null).operator = .ok false ∧
      (noShare .null).holds Catalog.standard (.ofDay ⟨2025, 10, 1, by decide⟩) oneTalk = true ∧
      (noShare (.int 0)).holds Catalog.standard (.ofDay ⟨2025, 10, 1, by decide⟩) oneTalk =
        true := by
  let context : EvaluationContext := .ofDay ⟨2025, 10, 1, by decide⟩
  have free : Operator.requiresValue (noShare .null).operator = .ok false := by decide +kernel
  have unread := value_unread Catalog.standard context free (.int 0) oneTalk
  have share : (noShare .null).IsShareOf (·.assignments) := rfl
  have counted : ((noShare .null).matching Catalog.standard context (·.assignments)
      oneTalk).toOption.map List.length = some 1 := by decide +kernel
  have unset : percentOf (.int 1) (context.resolve (noShare .null).value) = .ok none := by
    decide +kernel
  have zero : percentOf (.int 1) (context.resolve (.int 0)) = .ok none := by decide +kernel
  have same : Concur Eq (percentOf (.int 1) (context.resolve (.int 0)))
      (percentOf (.int 1) (context.resolve (noShare .null).value)) := by
    rw [zero, unset]
    exact .ok rfl
  have held : (noShare .null).holds Catalog.standard context oneTalk = true := by decide +kernel
  refine ⟨by decide +kernel, free, held, (unread.share ?_).trans held⟩
  intro items measured kept found
  cases share.symm.trans measured
  rw [found] at counted
  have one : kept.length = 1 := Option.some.inj counted
  rw [one, Nat.cast_one]
  exact same

/-- Ten is a whole where nothing is none: a condition that holds without a value fails with ten. -/
theorem whole_read : (noShare .null).isIncomplete Catalog.standard = .ok false ∧
    Operator.requiresValue (noShare .null).operator = .ok false ∧
    (noShare .null).holds Catalog.standard (.ofDay ⟨2025, 10, 1, by decide⟩) oneTalk = true ∧
    ((noShare .null).withValue (.int 10)).holds Catalog.standard
      (.ofDay ⟨2025, 10, 1, by decide⟩) oneTalk = false := by
  refine ⟨?_, ?_, ?_, ?_⟩ <;> decide +kernel

end Condition
end CourseAudit
