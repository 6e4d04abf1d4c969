import CourseAudit.Proofs.Comparison
import CourseAudit.Proofs.Order

/-!
The algebra of operators. Opposite operators never agree on a value that is there, the orders of
dates and of numbers put one value before, at or after another, and an empty value is one that is
not present.
-/
namespace CourseAudit

/-- How many of some operators hold between two values, as long as all of them answer. -/
def holding (context : EvaluationContext) (actual expected : Value) (operators : List Value) :
    Except Fault Nat := do
  let answers ← operators.mapM fun operator => holds context actual operator expected
  return answers.count true

namespace Operator

/-- The pairs of an operator and its opposite, patterns apart. -/
def opposites : List (Operator × Operator) :=
  [(.is, .isNot), (.equals, .doesNotEqual), (.isEmpty, .isNotEmpty), (.isPresent, .isNotPresent),
    (.exists, .doesNotExist), (.isTrue, .isFalse), (.isPublished, .isNotPublished),
    (.isComplete, .isNotComplete), (.isActive, .isInactive)]

/-- The operators that say of a value that it is there. -/
def ofPresence : List Operator := [.isNotEmpty, .isPresent, .exists, .isTrue]

/-- An operator and its opposite are judged once, and the opposite turns the judgement over. -/
theorem judge_opposite {op opposite : Operator} (h : (op, opposite) ∈ opposites)
    (actual expected : Value) :
    opposite.judge actual expected = (op.judge actual expected).map (!·) := by
  simp only [opposites, List.mem_cons, List.not_mem_nil, or_false, Prod.mk.injEq] at h
  rcases h with ⟨rfl, rfl⟩ | ⟨rfl, rfl⟩ | ⟨rfl, rfl⟩ | ⟨rfl, rfl⟩ | ⟨rfl, rfl⟩ | ⟨rfl, rfl⟩ |
    ⟨rfl, rfl⟩ | ⟨rfl, rfl⟩ | ⟨rfl, rfl⟩ <;> rfl

end Operator

namespace Value

/-- Texts and collections, the values that can be empty. -/
def hasSize : Value → Bool
  | .text _ | .choice _ | .list _ | .tuple _ | .dict _ => true
  | _ => false

/-- What can be empty is empty or present. -/
theorem isPresent_eq_not_isBlank {v : Value} (h : v.hasSize = true) :
    v.isPresent = !v.isBlank := by
  cases v with
  | text | choice | list | tuple | dict => rfl
  | _ => cases h

/-- Integers and finite numbers, which are equal to what counts as a number by its count alone. -/
def isNumeric : Value → Bool
  | .int _ => true
  | .float x => x.isFinite
  | _ => false

theorem toNumber_of_numeric {v : Value} {number : Option Binary64} (h : v.isNumeric = true)
    (counted : v.toNumber = .ok number) : ∃ x, number = some x := by
  cases v with
  | int i =>
      obtain ⟨x, -, rfl⟩ := map_eq_ok_iff.mp counted
      exact ⟨x, rfl⟩
  | float x =>
      have finite : x.isFinite = true := h
      simp only [toNumber, finite, if_true] at counted
      cases counted
      exact ⟨x, rfl⟩
  | _ => cases h

theorem equalTo_of_numeric {v expected : Value} {x y : Binary64} (h : v.isNumeric = true)
    (hx : v.toNumber = .ok (some x)) (hy : expected.toNumber = .ok (some y)) :
    equalTo v expected = .ok (x.equal y) := by
  cases v with
  | int i =>
      obtain ⟨z, near, same⟩ := map_eq_ok_iff.mp hx
      cases same
      simp only [equalTo, hy, near, ok_bind]
      rfl
  | float z =>
      have finite : z.isFinite = true := h
      simp only [toNumber, finite, if_true] at hx
      cases hx
      simp only [equalTo, hy, ok_bind]
      rfl
  | _ => cases h

end Value

section Laws

variable {context : EvaluationContext} {actual expected : Value} {spelled : Operator → Value}

theorem holding_eq_ok_iff {operators : List Value} {n : Nat} :
    holding context actual expected operators = .ok n ↔ ∃ answers,
      List.Forall₂ (fun operator answer => holds context actual operator expected = .ok answer)
        operators answers ∧ answers.count true = n := by
  simp only [holding, bind_eq_ok_iff, mapM_eq_ok_iff, pure, Except.pure, Except.ok.injEq]

variable (reads : ∀ op, Operator.ofValue? (spelled op) = some op) (present : actual.isNull = false)

include reads present

/-- Spelled operators count like their judgements. -/
theorem holding_spelled_iff (ops : List Operator) {n : Nat} :
    holding context actual expected (ops.map spelled) = .ok n ↔ ∃ answers,
      List.Forall₂ (fun op answer => op.judge actual (context.resolve expected) = .ok answer)
        ops answers ∧ answers.count true = n := by
  simp only [holding_eq_ok_iff, List.forall₂_map_left_iff, holds_of_operator (reads _) present]

theorem holding_spelled (ops : List Operator) {answers : List Bool}
    (judged : List.Forall₂
      (fun op answer => op.judge actual (context.resolve expected) = .ok answer) ops answers) :
    holding context actual expected (ops.map spelled) = .ok (answers.count true) :=
  (holding_spelled_iff reads present ops).mpr ⟨answers, judged, rfl⟩

/-- Two judgements that are each other's opposite count one. -/
theorem holding_opposites {op opposite : Operator}
    (turned : opposite.judge actual (context.resolve expected) =
      (op.judge actual (context.resolve expected)).map (!·)) {n : Nat}
    (held : holding context actual expected [spelled op, spelled opposite] = .ok n) : n = 1 := by
  obtain ⟨answers, judged, rfl⟩ := (holding_spelled_iff reads present [op, opposite]).mp held
  cases judged with
  | @cons _ first _ _ hp judged =>
      cases judged with
      | @cons _ second _ _ hq judged =>
          cases judged
          rw [turned, hp] at hq
          cases hq
          cases first <;> rfl

/-- No judgement that is always no counts. -/
theorem holding_none {ops : List Operator} {n : Nat}
    (no : ∀ op ∈ ops, ∀ answer,
      op.judge actual (context.resolve expected) = .ok answer → answer = false)
    (held : holding context actual expected (ops.map spelled) = .ok n) : n = 0 := by
  obtain ⟨answers, judged, rfl⟩ := (holding_spelled_iff reads present ops).mp held
  clear held
  induction judged with
  | nil => rfl
  | cons answered _ ih =>
      cases no _ List.mem_cons_self _ answered
      exact (List.count_cons_of_ne (by decide)).trans
        (ih fun op member => no op (List.mem_cons_of_mem _ member))

end Laws

/-- What operators say together of a value that is there. -/
structure OperatorLaws (context : EvaluationContext) (actual expected : Value)
    (spelled : Operator → Value) : Prop where
  opposites : ∀ op opposite, (op, opposite) ∈ Operator.opposites → ∀ n,
    holding context actual expected [spelled op, spelled opposite] = .ok n → n = 1
  patterns : ∀ node, Pattern.read (context.resolve expected).toText = .ok node → ∀ n,
    holding context actual expected [spelled .matches, spelled .doesNotMatch] = .ok n → n = 1
  noPattern : Pattern.read (context.resolve expected).toText = .error .malformed → ∀ n,
    holding context actual expected [spelled .matches, spelled .doesNotMatch] = .ok n → n = 0
  dates : ∀ d e, actual.toDate = some d → (context.resolve expected).toDate = some e →
    holding context actual expected [spelled .isBefore, spelled .isOn, spelled .isAfter] = .ok 1
  noDates : actual.toDate = none ∨ (context.resolve expected).toDate = none →
    holding context actual expected [spelled .isBefore, spelled .isOn, spelled .isAfter] = .ok 0
  numbers : ∀ x y, actual.toNumber = .ok (some x) →
    (context.resolve expected).toNumber = .ok (some y) →
    holding context actual expected [spelled .greaterThan, spelled .atMost] = .ok 1 ∧
      holding context actual expected [spelled .lessThan, spelled .atLeast] = .ok 1
  noNumbers : actual.toNumber = .ok none ∨ (context.resolve expected).toNumber = .ok none → ∀ n,
    holding context actual expected (Operator.ofNumbers.map spelled) = .ok n → n = 0
  order : ∀ y, actual.isNumeric = true → (context.resolve expected).toNumber = .ok (some y) →
    ∀ n, holding context actual expected
      [spelled .lessThan, spelled .equals, spelled .greaterThan] = .ok n → n = 1
  emptiness : actual.hasSize = true → ∀ op ∈ Operator.ofPresence,
    holding context actual expected [spelled .isEmpty, spelled op] = .ok 1

/-- A read pattern is decided once, for the operator that asks for a match and for its opposite. -/
theorem Operator.judge_doesNotMatch {actual expected : Value} {node : Pattern.Node}
    (read : Pattern.read expected.toText = .ok node) :
    doesNotMatch.judge actual expected = (Operator.matches.judge actual expected).map (!·) := by
  simp only [judge]
  cases fitted : fitsPattern actual expected with
  | error fault => rfl
  | ok fits =>
      obtain ⟨-, -, decided⟩ := fitsPattern_eq_ok_iff.mp fitted
      simp only [Pattern.fits, read] at decided
      cases found : node.matchesAll? actual.toText with
      | none =>
          rw [found] at decided
          cases decided
      | some fits =>
          rw [found] at decided
          cases decided
          cases fits <;> rfl

/-- What breaks the grammar of patterns is neither matched nor not matched. -/
theorem Operator.judge_of_malformed {op : Operator}
    (member : op ∈ [Operator.matches, .doesNotMatch])
    {actual expected : Value} (malformed : Pattern.read expected.toText = .error .malformed)
    {answer : Bool} (judged : op.judge actual expected = .ok answer) : answer = false := by
  have undecided {fits : Option Bool} (fitted : fitsPattern actual expected = .ok fits) :
      fits = none := by
    obtain ⟨-, -, found⟩ := fitsPattern_eq_ok_iff.mp fitted
    exact Except.ok.inj (found.symm.trans (Pattern.fits_of_malformed malformed))
  simp only [List.mem_cons, List.not_mem_nil, or_false] at member
  rcases member with rfl | rfl
  all_goals
    obtain ⟨fits, fitted, rfl⟩ := map_eq_ok_iff.mp judged
    rw [undecided fitted]
    rfl

/-- However operators are written, they agree and disagree as they should. -/
theorem operator_laws {context : EvaluationContext} {actual expected : Value}
    {spelled : Operator → Value} (reads : ∀ op, Operator.ofValue? (spelled op) = some op)
    (present : actual.isNull = false) : OperatorLaws context actual expected spelled where
  opposites op opposite pair n held :=
    holding_opposites reads present (Operator.judge_opposite pair _ _) held
  patterns node read n held :=
    holding_opposites reads present (Operator.judge_doesNotMatch read) held
  noPattern malformed n held :=
    holding_none reads present
      (fun op member answer judged => Operator.judge_of_malformed member malformed judged) held
  dates d e hd he := by
    have judged (relation : CivilDate → CivilDate → Bool) :
        onDates relation actual (context.resolve expected) = relation d e := by
      simp only [onDates, hd, he]
    have counted := holding_spelled reads present [.isBefore, .isOn, .isAfter]
      (.cons (congrArg Except.ok (judged _)) (.cons (congrArg Except.ok (judged _))
        (.cons (congrArg Except.ok (judged _)) .nil)))
    exact counted.trans (congrArg Except.ok (CivilDate.count_before_same_after d e))
  noDates side := by
    have judged (relation : CivilDate → CivilDate → Bool) :
        onDates relation actual (context.resolve expected) = false := onDates_of_none side
    exact holding_spelled reads present [.isBefore, .isOn, .isAfter]
      (.cons (congrArg Except.ok (judged _)) (.cons (congrArg Except.ok (judged _))
        (.cons (congrArg Except.ok (judged _)) .nil)))
  numbers x y hx hy := by
    have judged (relation : Binary64 → Binary64 → Bool) :
        onNumbers relation actual (context.resolve expected) = .ok (relation x y) :=
      onNumbers_of_some hx hy
    have above := Binary64.le_eq_not_gt (Value.isNan_toNumber hx) (Value.isNan_toNumber hy)
    have below := Binary64.ge_eq_not_lt (Value.isNan_toNumber hx) (Value.isNan_toNumber hy)
    constructor
    · have counted := holding_spelled reads present [.greaterThan, .atMost]
        (.cons (judged _) (.cons (judged _) .nil))
      refine counted.trans (congrArg Except.ok ?_)
      rw [above]
      cases x.gt y <;> rfl
    · have counted := holding_spelled reads present [.lessThan, .atLeast]
        (.cons (judged _) (.cons (judged _) .nil))
      refine counted.trans (congrArg Except.ok ?_)
      rw [below]
      cases x.lt y <;> rfl
  noNumbers side n held := by
    refine holding_none reads present (fun op member answer judged => ?_) held
    obtain ⟨relation, ordered⟩ := Operator.judge_ofNumbers member
    rw [ordered] at judged
    exact onNumbers_of_none side judged
  order y numeric hy n held := by
    obtain ⟨answers, judged, -⟩ :=
      (holding_spelled_iff reads present [.lessThan, .equals, .greaterThan]).mp held
    -- That the first operator answers shows that the integer, if it is one, is in range.
    obtain ⟨number, counted⟩ : ∃ number, actual.toNumber = .ok number := by
      cases judged with
      | cons first _ => exact (bind_eq_ok_iff.mp first).imp fun _ found => found.1
    obtain ⟨x, rfl⟩ := Value.toNumber_of_numeric numeric counted
    have ordered (relation : Binary64 → Binary64 → Bool) :
        onNumbers relation actual (context.resolve expected) = .ok (relation x y) :=
      onNumbers_of_some counted hy
    have one := holding_spelled reads present [.lessThan, .equals, .greaterThan]
      (.cons (ordered _) (.cons (Value.equalTo_of_numeric numeric counted hy)
        (.cons (ordered _) .nil)))
    exact (Except.ok.inj (held.symm.trans one)).trans
      (Binary64.count_lt_equal_gt (Value.isNan_toNumber counted) (Value.isNan_toNumber hy))
  emptiness sized op member := by
    have judged : op.judge actual (context.resolve expected) = .ok (!actual.isBlank) := by
      simp only [Operator.ofPresence, List.mem_cons, List.not_mem_nil, or_false] at member
      rcases member with rfl | rfl | rfl | rfl
      · rfl
      all_goals exact congrArg Except.ok (Value.isPresent_eq_not_isBlank sized)
    have counted := holding_spelled reads present [.isEmpty, op]
      (.cons rfl (.cons judged .nil))
    refine counted.trans (congrArg Except.ok ?_)
    cases actual.isBlank <;> rfl

/-- Three is compared with the number at the head of a text. -/
theorem operator_laws_threePoints :
    (∀ op : Operator, Operator.ofValue? (.text op.label) = some op) ∧
      (Value.int 3).isNull = false ∧
      holding (.ofDay ⟨2025, 10, 1, by decide⟩) (.int 3) (.text "3.5 points")
        [.text "Is greater than", .text "Is less than or equal to"] = .ok 1 := by
  have reads (op : Operator) : Operator.ofValue? (.text op.label) = some op := by
    cases op <;> decide +kernel
  have laws : OperatorLaws (.ofDay ⟨2025, 10, 1, by decide⟩) (.int 3) (.text "3.5 points")
      fun op => .text op.label := operator_laws reads rfl
  have points : ((EvaluationContext.ofDay ⟨2025, 10, 1, by decide⟩).resolve
      (.text "3.5 points")).toNumber = .ok (some (.ofRatio false 7 2)) := by decide +kernel
  have three : (Value.int 3).toNumber = .ok (some (.ofInt 3)) := by decide +kernel
  exact ⟨reads, rfl, (laws.numbers _ _ three points).1⟩

end CourseAudit
