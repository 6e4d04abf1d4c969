import CourseAudit.Proofs.Alike
import CourseAudit.Proofs.Filtering
import CourseAudit.Proofs.Readers

/-!
Sub-conditions in another order. They are asked up to the first that does not hold, so that one
which fails may be asked in one order and not in another. Two orders that both find a value find
the same one.
-/
namespace CourseAudit

/-- The same slots in another order; what is no list of slots stays what it is. -/
inductive Slots.Reorders {R : Type} : Slots R → Slots R → Prop
  | own {slots others : List (Slot R)} (h : slots.Perm others) : Reorders (.own slots) (.own others)
  | other (v : Value) : Reorders (.other v) (.other v)

namespace Slots.Reorders

variable {R : Type} {slots others : Slots R}

theorem members (h : slots.Reorders others) : Alike List.Perm slots.members others.members := by
  cases h with
  | own reordered => exact .ok reordered
  | other v =>
      cases (Slots.other v : Slots R).members with
      | ok vs => exact .ok (.refl vs)
      | error fault => exact .error fault

theorem isSet (h : slots.Reorders others) : slots.isSet = others.isSet := by
  cases h with
  | own reordered => simp only [Slots.isSet, reordered.isEmpty_eq]
  | other v => rfl

end Slots.Reorders

variable {catalog : Catalog} {context : EvaluationContext} {rule : Option PropertyRule}
  {c : Condition} {subs : Slots SubCondition} {s : Slot Section}

/-- A condition with other sub-conditions. -/
def Condition.inOrder (c : Condition) (subs : Slots SubCondition) : Condition :=
  { c with subConditions := subs }

theorem compatible_allHold (h : c.subConditions.Reorders subs)
    (property : String → Except Fault Value) :
    Compatible Eq (SubCondition.allHold context rule property c.subConditions)
      (SubCondition.allHold context rule property subs) :=
  (Compatible.of_concur h.members.concur).bind
    fun _ _ reordered => Test.compatible_all_perm reordered

theorem compatible_filterItems (h : c.subConditions.Reorders subs) (items : List (Slot LmsItem)) :
    Compatible Eq (filterItems context rule c.subConditions items)
      (filterItems context rule subs items) :=
  Test.compatible_filter fun _ _ => compatible_allHold h _

theorem measure_inOrder (m : Measure) (items : List (Slot LmsItem)) :
    m.of context (c.inOrder subs) items = m.of context c items := by
  cases m <;> rfl

theorem compatible_readComponent (h : c.subConditions.Reorders subs) :
    Compatible Eq (readComponent context rule c s)
      (readComponent context rule (c.inOrder subs) s) := by
  simp only [readComponent, Condition.inOrder]
  split
  -- other operators than those of presence look at nothing
  case h_3 => exact .refl _
  all_goals
    refine .bind_same fun _ => .bind_same fun _ => .bind_same fun found => ?_
    cases found with
    | none => exact .refl _
    | some p =>
        change Compatible Eq (if c.subConditions.isSet then _ else _)
          (if subs.isSet then _ else _)
        by_cases set : subs.isSet = true
        · simp only [h.isSet, if_pos set]
          exact (compatible_allHold h _).map fun _ _ same => congrArg Value.bool same
        · simp only [h.isSet, if_neg set]
          exact .refl _

theorem compatible_resolve (h : c.subConditions.Reorders subs) (s : Slot Section) :
    Compatible Eq (c.resolve catalog context s) ((c.inOrder subs).resolve catalog context s) := by
  refine Condition.resolve_through rfl rfl .refl fun rule reader _ _ => ?_
  cases reader with
  | componentOfName => exact compatible_readComponent h
  | measure items m =>
      refine .bind_same fun _ => .bind_same fun members => ?_
      refine (compatible_filterItems h members).bind fun kept _ same => ?_
      rw [← same, measure_inOrder]
      exact .refl _
  | _ => exact .refl _

/-! ## Sub-conditions that are all answered -/

/-- What the sub-conditions of a condition are asked of in a section, each by how its properties
are read. -/
def Reader.asked (c : Condition) (s : Section) : Reader → List (String → Except Fault Value)
  | .componentOfName =>
    (s.components.records.filter (·.name.same c.property)).map fun p name => p.property name
  | .measure items _ =>
    ((items s).members.toOption.getD []).map fun i name => LmsItem.property name i
  | _ => []

/-- Whether the sub-conditions of a condition have an answer for all that they are asked of. -/
def Condition.IsAnswered (catalog : Catalog) (context : EvaluationContext) (c : Condition)
    (s : Section) : Prop :=
  ∀ reader, Reader.ofCondition? c = .ok (some reader) → ∀ property ∈ reader.asked c s,
    ∀ slots, c.subConditions.members = .ok slots →
      ∀ slot ∈ slots, ∃ b, slot.test (c.asks catalog context property) = .ok b

theorem findComponent_eq_some {name : Value} {slots : List (Slot Component)} {p : Component}
    (h : findComponent name slots = .ok (some p)) :
    p ∈ (Slots.own slots).records ∧ p.name.same name = true := by
  induction slots with
  | nil => cases h
  | cons slot rest ih =>
      cases slot with
      | other v => cases h
      | own q notes =>
          simp only [findComponent, Slot.get_own, ok_bind] at h
          split at h
          · next same =>
              cases h
              exact ⟨List.mem_cons_self, same⟩
          · exact (ih h).imp_left (List.mem_cons_of_mem _)

/-- A component that is found among the members is one of the records. -/
theorem mem_records_of_findComponent {name : Value} {components : Slots Component}
    {slots : List (Slot Component)} {p : Component} (reading : components.members = .ok slots)
    (h : findComponent name slots = .ok (some p)) :
    p ∈ components.records.filter (·.name.same name) := by
  rw [List.mem_filter]
  cases components with
  | own members =>
      cases reading
      exact findComponent_eq_some h
  | other v =>
      obtain ⟨vs, -, rfl⟩ := map_eq_ok_iff.mp reading
      cases vs <;> cases h

variable {record : Section} {notes : List (String × Value)}

theorem allHold_inOrder (h : c.subConditions.Reorders subs)
    {property : String → Except Fault Value} (ruled : catalog.ruleOf c = .ok rule)
    (answers : ∀ slots, c.subConditions.members = .ok slots →
      ∀ slot ∈ slots, ∃ b, slot.test (c.asks catalog context property) = .ok b) :
    SubCondition.allHold context rule property subs =
      SubCondition.allHold context rule property c.subConditions := by
  generalize c.subConditions = own at h answers
  cases h with
  | other v => rfl
  | own reordered =>
      rw [Condition.allHold_eq_all ruled, Condition.allHold_eq_all ruled]
      exact (Test.all_perm reordered (answers _ rfl)).symm

theorem readComponent_inOrder (h : c.subConditions.Reorders subs)
    (same : ∀ property ∈ Reader.componentOfName.asked c record,
      SubCondition.allHold context rule property subs =
        SubCondition.allHold context rule property c.subConditions) :
    readComponent context rule (c.inOrder subs) (.own record notes) =
      readComponent context rule c (.own record notes) := by
  simp only [readComponent, Condition.inOrder, Slot.get_own, ok_bind]
  cases members : record.components.members with
  | error fault => rfl
  | ok slots =>
      cases found : findComponent c.property slots with
      | error fault => simp only [ok_bind, found]; rfl
      | ok result =>
          cases result with
          | none => simp only [ok_bind, found]
          | some p =>
              have listed := mem_records_of_findComponent members found
              have asked := same _ (List.mem_map_of_mem listed)
              simp only [ok_bind, found, asked, h.isSet]

theorem resolve_inOrder (h : c.subConditions.Reorders subs)
    (answers : c.IsAnswered catalog context record) :
    (c.inOrder subs).resolve catalog context (.own record notes) =
      c.resolve catalog context (.own record notes) := by
  refine Condition.resolve_through rfl rfl (fun _ => rfl) fun rule reader ruled reading => ?_
  have same (property : String → Except Fault Value) (asked : property ∈ reader.asked c record) :=
    allHold_inOrder h ruled (answers reader reading property asked)
  cases reader with
  | componentOfName => exact readComponent_inOrder h same
  | measure items m =>
      simp only [Reader.read, Slot.get_own, ok_bind, measure_inOrder]
      cases members : (items record).members with
      | error fault => rfl
      | ok slots =>
          have kept : filterItems context rule subs slots =
              filterItems context rule c.subConditions slots := by
            refine Test.filter_congr fun i member => same _ ?_
            simp only [Reader.asked, members]
            exact List.mem_map_of_mem member
          exact congrArg (· >>= fun kept => m.of context c kept) kept
  | _ => rfl

/-! ## The outcome -/

/-- Whether two conditions are decided alike, and shown alike by every task that shows their
values. -/
structure Condition.SameOutcome (catalog : Catalog) (context : EvaluationContext)
    (s : Slot Section) (c d : Condition) : Prop where
  holds : c.holds catalog context s = d.holds catalog context s
  display : ∀ (t : PlanTask) (passes : Bool) (notes others : List (String × Value)),
    t.displayOf context passes (some (.own c notes)) (fun c => c.resolve catalog context s) =
      t.displayOf context passes (some (.own d others)) fun d => d.resolve catalog context s

theorem sameOutcome_of_concur
    (h : Concur Eq (c.resolve catalog context s) ((c.inOrder subs).resolve catalog context s)) :
    Condition.SameOutcome catalog context s c (c.inOrder subs) where
  holds := by
    refine Concur.holds_eq (h.bind fun v w same => ?_)
    rw [same]
    exact .refl _
  display t passes notes others := by
    refine PlanTask.displayOf_concur rfl (fun type => ?_) passes
    refine h.bind fun v w same => ?_
    have alike : type.render (c.inOrder subs) w (context.resolve c.value) =
        type.render c w (context.resolve c.value) := by
      cases type <;> rfl
    rw [same, ← alike]
    exact .refl _

/-- What remains of a condition when its sub-conditions are put in another order. Two orders differ
at most in that one finds a value and the other fails. -/
structure Condition.Reordered (catalog : Catalog) (context : EvaluationContext) (c : Condition)
    (subs : Slots SubCondition) (s : Section) (notes : List (String × Value)) : Prop where
  value : ∀ v w, c.resolve catalog context (.own s notes) = .ok v →
    (c.inOrder subs).resolve catalog context (.own s notes) = .ok w → v = w
  alike : ((∃ v, c.resolve catalog context (.own s notes) = .ok v) ↔
      ∃ v, (c.inOrder subs).resolve catalog context (.own s notes) = .ok v) →
    Condition.SameOutcome catalog context (.own s notes) c (c.inOrder subs)
  answered : c.IsAnswered catalog context s →
    Condition.SameOutcome catalog context (.own s notes) c (c.inOrder subs)

/-- The order of sub-conditions makes no difference, unless one of them fails. -/
theorem Condition.reordered (catalog : Catalog) (context : EvaluationContext) (c : Condition)
    {subs : Slots SubCondition} (h : c.subConditions.Reorders subs) (s : Section)
    (notes : List (String × Value)) : c.Reordered catalog context subs s notes where
  value := compatible_resolve h (.own s notes)
  alike both := sameOutcome_of_concur ((compatible_resolve h (.own s notes)).concur both)
  answered answers := by
    refine sameOutcome_of_concur ?_
    rw [resolve_inOrder h answers]
    exact .refl _

def namedQuiz : SubCondition :=
  { property := .text "Name", operator := .text "Is", value := .text "Quiz" }

def ofFiveLetters : SubCondition :=
  { property := .text "Name", operator := .text "Character count equals", value := .int 5 }

/-- No name can be compared with this number of letters. -/
def ofTooManyLetters : SubCondition :=
  { property := .text "Name", operator := .text "Character count equals",
    value := .int (Nat.pow 10 400) }

/-- A condition that there are no assignments with sub-conditions. -/
def noAssignments (subs : List SubCondition) : Condition where
  groupType := .choice (.group .lms)
  source := .text "Assignments"
  property := .text "Total Count"
  operator := .text "Equals"
  value := .int 0
  subConditions := .ofList subs

def oneEssay : Section where
  assignments := .ofList [{ name := .text "Essay" }]

theorem Condition.reordered_noAssignments :
    (noAssignments [namedQuiz, ofFiveLetters]).subConditions.Reorders
        (.ofList [ofFiveLetters, namedQuiz]) ∧
      (noAssignments [namedQuiz, ofFiveLetters]).IsAnswered Catalog.standard
        (.ofDay ⟨2025, 10, 1, by decide⟩) oneEssay ∧
      (noAssignments [namedQuiz, ofFiveLetters]).SameOutcome Catalog.standard
        (.ofDay ⟨2025, 10, 1, by decide⟩) oneEssay
        (noAssignments [ofFiveLetters, namedQuiz]) := by
  have reorders : (noAssignments [namedQuiz, ofFiveLetters]).subConditions.Reorders
      (.ofList [ofFiveLetters, namedQuiz]) := .own (.swap _ _ _)
  have answered : (noAssignments [namedQuiz, ofFiveLetters]).IsAnswered Catalog.standard
      (.ofDay ⟨2025, 10, 1, by decide⟩) oneEssay := by
    intro reader reading property asked slots members slot member
    have counted : Reader.ofCondition? (noAssignments [namedQuiz, ofFiveLetters]) =
        .ok (some (.measure (·.assignments) .count)) := rfl
    cases counted.symm.trans reading
    cases List.mem_singleton.mp asked
    cases members
    rcases List.mem_pair.mp member with rfl | rfl
    · exact ⟨false, by decide +kernel⟩
    · exact ⟨true, by decide +kernel⟩
  refine ⟨reorders, answered, ?_⟩
  exact (Condition.reordered Catalog.standard (.ofDay ⟨2025, 10, 1, by decide⟩)
    (noAssignments [namedQuiz, ofFiveLetters]) reorders oneEssay []).answered answered

/-- An essay is not counted before its name is measured, or is the fault of the condition. -/
theorem order_matters :
    (noAssignments [namedQuiz, ofTooManyLetters]).subConditions.Reorders
        (.ofList [ofTooManyLetters, namedQuiz]) ∧
      (noAssignments [namedQuiz, ofTooManyLetters]).holds Catalog.standard
        (.ofDay ⟨2025, 10, 1, by decide⟩) oneEssay = true ∧
      ((noAssignments [namedQuiz, ofTooManyLetters]).inOrder
        (.ofList [ofTooManyLetters, namedQuiz])).holds Catalog.standard
        (.ofDay ⟨2025, 10, 1, by decide⟩) oneEssay = false := by
  refine ⟨.own (.swap _ _ _), ?_, ?_⟩ <;> decide +kernel

end CourseAudit
