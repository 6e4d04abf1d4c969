import CourseAudit.Comparison
import CourseAudit.Proofs.Obstacle
import CourseAudit.Proofs.Rounding

/-!
Which comparisons have an answer. An unknown operator and a side that cannot be coerced compare
false; the only things left without an answer are integers beyond the range of numbers, values that
cannot be written where texts are compared, and patterns that a matcher does not follow.
-/
namespace CourseAudit

namespace Value

mutual

/-- Whether every integer that a value holds has a finite number near it. -/
def inRange : Value → Bool
  | .int i => decide (i.natAbs < Binary64.integerLimit)
  | .list items | .tuple items => areInRange items
  | .dict entries => entriesInRange entries
  | _ => true

def areInRange : List Value → Bool
  | [] => true
  | v :: rest => v.inRange && areInRange rest

def entriesInRange : List (String × Value) → Bool
  | [] => true
  | (_, v) :: rest => v.inRange && entriesInRange rest

end

theorem ofInt?_of_inRange {i : Int} (h : (int i).inRange = true) :
    Binary64.ofInt? i = .ok (Binary64.ofInt i) := by
  simp only [inRange, decide_eq_true_iff] at h
  rw [Binary64.ofInt?_eq, if_pos h]

theorem toNumber_total {v : Value} (h : v.inRange = true) : ∃ number, v.toNumber = .ok number := by
  cases v with
  | int i => exact ⟨_, congrArg (Except.map some) (ofInt?_of_inRange h)⟩
  | _ => exact ⟨_, rfl⟩

theorem toNumber_beyond {i : Int} (h : Binary64.integerLimit ≤ i.natAbs) :
    (Value.int i).toNumber = .error .overflow := by
  have far : Binary64.ofInt? i = .error .overflow := by
    rw [Binary64.ofInt?_eq, if_neg (by omega)]
  exact congrArg (Except.map some) far

/-- Only an integer beyond the range is a fault. -/
theorem toNumber_fault {v : Value} {fault : Fault} (h : v.toNumber = .error fault) :
    fault = .overflow := by
  cases v with
  | int i =>
      rcases Nat.lt_or_ge i.natAbs Binary64.integerLimit with near | far
      · simp only [toNumber, Binary64.ofInt?_eq, if_pos near, Except.map] at h
        cases h
      · cases (toNumber_beyond far).symm.trans h
        rfl
  | _ => cases h

end Value

section Judgements

variable {actual expected : Value}

theorem onDates_of_none {relation : CivilDate → CivilDate → Bool}
    (h : actual.toDate = none ∨ expected.toDate = none) :
    onDates relation actual expected = false := by
  unfold onDates
  rcases h with h | h
  · rw [h]
  · rw [h]
    cases actual.toDate <;> rfl

theorem onNumbers_of_some {relation : Binary64 → Binary64 → Bool} {x y : Binary64}
    (hx : actual.toNumber = .ok (some x)) (hy : expected.toNumber = .ok (some y)) :
    onNumbers relation actual expected = .ok (relation x y) := by
  simp only [onNumbers, hx, hy, ok_bind]
  rfl

/-- Without numbers on both sides no relation holds. -/
theorem onNumbers_of_none {relation : Binary64 → Binary64 → Bool} {answer : Bool}
    (h : actual.toNumber = .ok none ∨ expected.toNumber = .ok none)
    (answered : onNumbers relation actual expected = .ok answer) : answer = false := by
  obtain ⟨x, hx, rest⟩ := bind_eq_ok_iff.mp answered
  obtain ⟨y, hy, result⟩ := bind_eq_ok_iff.mp rest
  rcases h with h | h
  · cases hx.symm.trans h
    cases result
    rfl
  · cases hy.symm.trans h
    cases x with
    | none =>
        cases result
        rfl
    | some x =>
        cases result
        rfl

theorem onNumbers_total {relation : Binary64 → Binary64 → Bool} (ha : actual.inRange = true)
    (he : expected.inRange = true) : ∃ answer, onNumbers relation actual expected = .ok answer := by
  obtain ⟨x, hx⟩ := Value.toNumber_total ha
  obtain ⟨y, hy⟩ := Value.toNumber_total he
  simp only [onNumbers, hx, hy, ok_bind]
  split <;> exact ⟨_, rfl⟩

theorem onNumbers_beyond {relation : Binary64 → Binary64 → Bool} {i : Int}
    (side : actual = .int i ∨ expected = .int i) (far : Binary64.integerLimit ≤ i.natAbs) :
    onNumbers relation actual expected = .error .overflow := by
  unfold onNumbers
  cases counted : actual.toNumber with
  | error fault =>
      cases Value.toNumber_fault counted
      rfl
  | ok x =>
      rcases side with rfl | rfl
      · cases (Value.toNumber_beyond far).symm.trans counted
      · rw [ok_bind, Value.toNumber_beyond far]
        rfl

theorem onLength_total {relation : Binary64 → Binary64 → Bool} (ha : actual.HasText)
    (he : expected.inRange = true) : ∃ answer, onLength relation actual expected = .ok answer := by
  obtain ⟨text, written⟩ := ha
  obtain ⟨y, hy⟩ := Value.toNumber_total he
  simp only [onLength, hy, written, ok_bind]
  split <;> exact ⟨_, rfl⟩

theorem onTexts_total {relation : String → String → Bool} {first second : Value}
    (hf : first.HasText) (hs : second.HasText) :
    ∃ answer, onTexts relation first second = .ok answer := by
  obtain ⟨s, hs⟩ := Value.comparable_total hs
  obtain ⟨f, hf⟩ := Value.comparable_total hf
  exact ⟨relation f s, by simp only [onTexts, hf, hs, ok_bind]; rfl⟩

/-- Texts are only compared of values that can be written. -/
theorem hasText_of_onTexts {relation : String → String → Bool} {first second : Value}
    {answer : Bool} (h : onTexts relation first second = .ok answer) :
    first.HasText ∧ second.HasText := by
  obtain ⟨f, hf, rest⟩ := bind_eq_ok_iff.mp h
  obtain ⟨s, hs, -⟩ := bind_eq_ok_iff.mp rest
  exact ⟨Value.hasText_of_comparable hf, Value.hasText_of_comparable hs⟩

theorem equalTo_total (ha : actual.inRange = true) (he : expected.inRange = true)
    (texts : actual.HasText ∧ expected.HasText) :
    ∃ answer, equalTo actual expected = .ok answer := by
  obtain ⟨y, hy⟩ := Value.toNumber_total he
  obtain ⟨same, compared⟩ := @onTexts_total (· == ·) actual expected texts.1 texts.2
  cases actual with
  | int i =>
      simp only [equalTo, hy, Value.ofInt?_of_inRange ha, ok_bind]
      cases y with
      | none => exact ⟨same, compared⟩
      | some y => exact ⟨_, rfl⟩
  | float x =>
      simp only [equalTo, hy, ok_bind]
      cases y with
      | none => exact ⟨same, compared⟩
      | some y => exact ⟨_, rfl⟩
  | _ => exact ⟨same, compared⟩

theorem isState_total {names : List String} (h : actual.HasText) :
    ∃ answer, isState names actual = .ok answer :=
  map_total _ (Value.comparable_total h)

/-- A pattern is decided on a text when it breaks the grammar, or when it is read and its match has
no part that ends before it begins. -/
def Pattern.Decides (pattern text : String) : Prop :=
  Pattern.read pattern = .error .malformed ∨
    ∃ node fits, Pattern.read pattern = .ok node ∧ node.matchesAll? text = some fits

/-- A value fits a pattern by its text. -/
theorem fitsPattern_eq_ok_iff {fits : Option Bool} :
    fitsPattern actual expected = .ok fits ↔ actual.HasText ∧ expected.HasText ∧
      Pattern.fits expected.toText actual.toText = .ok fits := by
  simp only [fitsPattern, bind_eq_ok_iff, Value.HasText]
  constructor
  · rintro ⟨pattern, hp, text, ht, found⟩
    obtain ⟨-, rfl⟩ := Value.write_eq_ok_iff.mp hp
    obtain ⟨-, rfl⟩ := Value.write_eq_ok_iff.mp ht
    exact ⟨⟨_, ht⟩, ⟨_, hp⟩, found⟩
  · rintro ⟨⟨text, ht⟩, ⟨pattern, hp⟩, found⟩
    obtain ⟨-, rfl⟩ := Value.write_eq_ok_iff.mp hp
    obtain ⟨-, rfl⟩ := Value.write_eq_ok_iff.mp ht
    exact ⟨_, hp, _, ht, found⟩

theorem Pattern.fits_of_malformed {pattern text : String}
    (h : Pattern.read pattern = .error .malformed) : Pattern.fits pattern text = .ok none := by
  simp only [Pattern.fits, h]

theorem fitsPattern_total (texts : actual.HasText ∧ expected.HasText)
    (h : Pattern.Decides expected.toText actual.toText) :
    ∃ fits, fitsPattern actual expected = .ok fits := by
  simp only [fitsPattern_eq_ok_iff, texts, true_and]
  rcases h with malformed | ⟨node, fits, read, decided⟩
  · exact ⟨none, Pattern.fits_of_malformed malformed⟩
  · exact ⟨some fits, by simp only [Pattern.fits, read, decided]⟩

end Judgements

namespace Operator

/-- The operators that compare dates. -/
def ofDates : List Operator := [.isBefore, .isAfter, .isOn]

/-- The operators that compare numbers by their order. -/
def ofNumbers : List Operator := [.greaterThan, .lessThan, .atLeast, .atMost]

theorem judge_ofDates {op : Operator} (h : op ∈ ofDates) :
    ∃ relation, ∀ actual expected, op.judge actual expected =
      .ok (onDates relation actual expected) := by
  simp only [ofDates, List.mem_cons, List.not_mem_nil, or_false] at h
  rcases h with rfl | rfl | rfl <;> exact ⟨_, fun _ _ => rfl⟩

theorem judge_ofNumbers {op : Operator} (h : op ∈ ofNumbers) :
    ∃ relation, ∀ actual expected, op.judge actual expected =
      onNumbers relation actual expected := by
  simp only [ofNumbers, List.mem_cons, List.not_mem_nil, or_false] at h
  rcases h with rfl | rfl | rfl | rfl <;> exact ⟨_, fun _ _ => rfl⟩

theorem notEmpty_ofDates : ∀ op ∈ ofDates, (op == .isEmpty) = false := by decide

theorem notEmpty_ofNumbers : ∀ op ∈ ofNumbers, (op == .isEmpty) = false := by decide

/-- Whether an operator may have to look at the texts of values. -/
def readsTexts : Operator → Bool
  | .isBefore | .isAfter | .isOn | .greaterThan | .lessThan | .atLeast | .atMost => false
  | .isEmpty | .isNotEmpty | .isPresent | .isNotPresent | .exists | .doesNotExist => false
  | .isTrue | .isFalse => false
  | _ => true

/-- The operators that always look at the texts of both sides. -/
def ofBothTexts : List Operator := [.contains, .startsWith, .endsWith, .matches, .doesNotMatch]

/-- Whatever the operator, values in range are judged where their texts are there, and patterns as
far as they are decided. -/
theorem judge_total {op : Operator} {actual expected : Value} (ha : actual.inRange = true)
    (he : expected.inRange = true)
    (texts : op.readsTexts = true → actual.HasText ∧ expected.HasText)
    (decided : op ∈ [Operator.matches, .doesNotMatch] →
      Pattern.Decides expected.toText actual.toText) :
    ∃ answer, op.judge actual expected = .ok answer := by
  cases op with
  | greaterThan | lessThan | atLeast | atMost => exact onNumbers_total ha he
  | is | equals => exact equalTo_total ha he (texts rfl)
  | isNot | doesNotEqual => exact map_total _ (equalTo_total ha he (texts rfl))
  | contains => exact onTexts_total (texts rfl).2 (texts rfl).1
  | startsWith | endsWith => exact onTexts_total (texts rfl).1 (texts rfl).2
  | «matches» | doesNotMatch =>
      exact map_total _ (fitsPattern_total (texts rfl) (decided (by decide)))
  | lengthEquals | lengthBelow => exact onLength_total (texts rfl).1 he
  | isPublished | isComplete | isActive => exact isState_total (texts rfl).1
  | isNotPublished | isNotComplete | isInactive =>
      exact map_total _ (isState_total (texts rfl).1)
  | _ => exact ⟨_, rfl⟩

/-- What such an operator judges can be written. -/
theorem hasText_of_judge {op : Operator} (member : op ∈ ofBothTexts) {actual expected : Value}
    {answer : Bool} (judged : op.judge actual expected = .ok answer) :
    actual.HasText ∧ expected.HasText := by
  simp only [ofBothTexts, List.mem_cons, List.not_mem_nil, or_false] at member
  rcases member with rfl | rfl | rfl | rfl | rfl
  · exact (hasText_of_onTexts judged).symm
  · exact hasText_of_onTexts judged
  · exact hasText_of_onTexts judged
  all_goals
    obtain ⟨fits, fitted, -⟩ := map_eq_ok_iff.mp judged
    obtain ⟨text, pattern, -⟩ := fitsPattern_eq_ok_iff.mp fitted
    exact ⟨text, pattern⟩

end Operator

section Comparisons

variable {context : EvaluationContext} {actual operator expected : Value} {op : Operator}

theorem holds_of_null (known : Operator.ofValue? operator = some op)
    (absent : actual.isNull = true) :
    holds context actual operator expected = .ok (op == .isEmpty) := by
  simp only [holds, known, absent, if_true]

theorem holds_of_operator (known : Operator.ofValue? operator = some op)
    (present : actual.isNull = false) :
    holds context actual operator expected = op.judge actual (context.resolve expected) := by
  simp only [holds, known, present, Bool.false_eq_true, if_false]

end Comparisons

/-- What a comparison answers. Whatever is no operator, no date or no number compares false; all
others have an answer as long as integers stay in range, texts that are looked at can be written and
patterns are decided. -/
structure Compares (context : EvaluationContext) (actual operator expected : Value) : Prop where
  unknown : Operator.ofValue? operator = none →
    holds context actual operator expected = .ok false
  undated : ∀ op ∈ Operator.ofDates, Operator.ofValue? operator = some op →
    actual.toDate = none ∨ (context.resolve expected).toDate = none →
    holds context actual operator expected = .ok false
  unnumbered : ∀ op ∈ Operator.ofNumbers, Operator.ofValue? operator = some op →
    actual.toNumber = .ok none ∨ (context.resolve expected).toNumber = .ok none →
    ∀ answer, holds context actual operator expected = .ok answer → answer = false
  answered : actual.inRange = true → (context.resolve expected).inRange = true →
    (∀ op, Operator.ofValue? operator = some op → op.readsTexts = true →
      actual.HasText ∧ (context.resolve expected).HasText) →
    (∀ op ∈ [Operator.matches, .doesNotMatch], Operator.ofValue? operator = some op →
      Pattern.Decides (context.resolve expected).toText actual.toText) →
    ∃ answer, holds context actual operator expected = .ok answer
  beyond : ∀ op ∈ Operator.ofNumbers, Operator.ofValue? operator = some op →
    actual.isNull = false → ∀ i, actual = .int i ∨ context.resolve expected = .int i →
    Binary64.integerLimit ≤ i.natAbs →
    holds context actual operator expected = .error .overflow
  unwritten : ∀ op ∈ Operator.ofBothTexts, Operator.ofValue? operator = some op →
    actual.isNull = false → ¬ (actual.HasText ∧ (context.resolve expected).HasText) →
    ∃ fault, holds context actual operator expected = .error fault

theorem comparison_answers (context : EvaluationContext) (actual operator expected : Value) :
    Compares context actual operator expected where
  unknown unknown := by simp only [holds, unknown]
  undated op member known side := by
    cases absent : actual.isNull with
    | true =>
        rw [holds_of_null known absent]
        exact congrArg Except.ok (Operator.notEmpty_ofDates op member)
    | false =>
        obtain ⟨relation, judged⟩ := Operator.judge_ofDates member
        rw [holds_of_operator known absent, judged, onDates_of_none side]
  unnumbered op member known side answer answered := by
    cases absent : actual.isNull with
    | true =>
        rw [holds_of_null known absent] at answered
        cases answered
        exact Operator.notEmpty_ofNumbers op member
    | false =>
        obtain ⟨relation, judged⟩ := Operator.judge_ofNumbers member
        rw [holds_of_operator known absent, judged] at answered
        exact onNumbers_of_none side answered
  answered ha he texts decided := by
    cases known : Operator.ofValue? operator with
    | none => exact ⟨false, by simp only [holds, known]⟩
    | some op =>
        cases absent : actual.isNull with
        | true => exact ⟨_, holds_of_null known absent⟩
        | false =>
            rw [holds_of_operator known absent]
            exact Operator.judge_total ha he (texts op known) fun member => decided op member known
  beyond op member known present i side far := by
    obtain ⟨relation, judged⟩ := Operator.judge_ofNumbers member
    rw [holds_of_operator known present, judged, onNumbers_beyond side far]
  unwritten op member known present wordless := by
    rw [holds_of_operator known present]
    cases judged : op.judge actual (context.resolve expected) with
    | error fault => exact ⟨fault, rfl⟩
    | ok answer => exact absurd (Operator.hasText_of_judge member judged) wordless

/-- An integer of four hundred digits is greater than one, yet no comparison says so. -/
theorem comparison_overflows : ¬ ∀ context actual operator expected,
    ∃ answer, holds context actual operator expected = .ok answer := by
  intro answers
  let context : EvaluationContext := ⟨⟨2025, 10, 1, by decide⟩, []⟩
  obtain ⟨answer, answered⟩ :=
    answers context (.int (Nat.pow 10 400)) (.text "Is greater than") (.int 1)
  have overflows : holds context (.int (Nat.pow 10 400)) (.text "Is greater than") (.int 1) =
      .error .overflow := by decide +kernel
  cases overflows.symm.trans answered

end CourseAudit
