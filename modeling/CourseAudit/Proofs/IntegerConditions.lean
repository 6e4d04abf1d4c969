import CourseAudit.Proofs.Comparison
import CourseAudit.Proofs.Decimal
import CourseAudit.Proofs.Integers
import CourseAudit.Proofs.Operators
import CourseAudit.Proofs.Tokens

/-!
Integers compared however they are written. An integer, the number that it is and every text that
writes it count as the same, so that comparing numbers is comparing integers.
-/
namespace CourseAudit

section Integers
open Binary64

variable {context : EvaluationContext} {n m : Int} {v operator : Value} {op : Operator}
  {relation : Int → Int → Bool}

/-- The values that stand for an integer: itself, the number that it is, and the texts that write
it. -/
inductive Value.Writes (m : Int) : Value → Prop
  | int : Writes m (.int m)
  | float {x : Binary64} (whole : x.toInt? = some m) : Writes m (.float x)
  | text {s : String} (written : Numeral.Writes m s) : Writes m (.text s)

theorem Value.ofInt?_small (small : n.natAbs ≤ 2 ^ 53) : ofInt? n = .ok (ofInt n) := by
  have inside : 2 ^ 53 < integerLimit := by decide +kernel
  rw [ofInt?_eq, if_pos (small.trans_lt inside)]

/-- However an integer is written, it counts as itself. -/
theorem Value.Writes.toNumber_eq (written : v.Writes m) (small : m.natAbs ≤ 2 ^ 53) :
    ∃ x, v.toNumber = .ok (some x) ∧ x.toInt? = some m := by
  cases written with
  | int =>
      refine ⟨ofInt m, ?_, toInt?_ofInt small⟩
      rw [toNumber, ofInt?_small small]
      rfl
  | @float x whole =>
      refine ⟨x, ?_, whole⟩
      simp only [toNumber, isFinite_of_toInt? whole, if_true]
  | @text s written =>
      have short : digitCount m.natAbs ≤ 17 :=
        (digitCount_le_iff (by decide)).mpr (small.trans_lt (by norm_num))
      refine ⟨ofInt m, ?_, toInt?_ofInt small⟩
      exact congrArg Except.ok (Numeral.read_of_writes written (by omega))

/-- The relation of integers that an operator of numbers asks about. -/
def Operator.onIntegers? : Operator → Option (Int → Int → Bool)
  | .is | .equals => some fun n m => decide (n = m)
  | .isNot | .doesNotEqual => some fun n m => decide (n ≠ m)
  | .greaterThan => some fun n m => decide (n > m)
  | .lessThan => some fun n m => decide (n < m)
  | .atLeast => some fun n m => decide (n ≥ m)
  | .atMost => some fun n m => decide (n ≤ m)
  | _ => none

/-- Equality and order take different ways through the judgements and both come to integers. -/
theorem Operator.judge_integers (small : n.natAbs ≤ 2 ^ 53) (smallValue : m.natAbs ≤ 2 ^ 53)
    (written : v.Writes m) (asked : op.onIntegers? = some relation) :
    op.judge (.int n) v = .ok (relation n m) := by
  obtain ⟨x, counted, whole⟩ := (Value.Writes.int (m := n)).toNumber_eq small
  obtain ⟨y, expected, wholeValue⟩ := written.toNumber_eq smallValue
  have related := relatedAs_of_toInt? whole wholeValue
  have ordered (r : Binary64 → Binary64 → Bool) : onNumbers r (.int n) v = .ok (r x y) :=
    onNumbers_of_some counted expected
  have equal : equalTo (.int n) v = .ok (decide (n = m)) := by
    rw [Value.equalTo_of_numeric rfl counted expected, related.equal]
  have differs : (equalTo (.int n) v).map (!·) = .ok (decide (n ≠ m)) := by
    rw [equal, decide_not]
    rfl
  cases op with
  | is | equals =>
      cases asked
      exact equal
  | isNot | doesNotEqual =>
      cases asked
      exact differs
  | greaterThan =>
      cases asked
      exact (ordered _).trans (congrArg Except.ok related.gt)
  | lessThan =>
      cases asked
      exact (ordered _).trans (congrArg Except.ok related.lt)
  | atLeast =>
      cases asked
      exact (ordered _).trans (congrArg Except.ok related.ge)
  | atMost =>
      cases asked
      exact (ordered _).trans (congrArg Except.ok related.le)
  | _ => cases asked

/-- Conditions on integers of magnitude at most 2 ^ 53 are decided exactly, however the value is
written. -/
theorem integers_compare (small : n.natAbs ≤ 2 ^ 53) (smallValue : m.natAbs ≤ 2 ^ 53)
    (written : v.Writes m)
    (noToken : ∀ s, v.asText? = some s → Value.get? context.tokens (Text.trim s) = none)
    (named : Operator.ofValue? operator = some op) (asked : op.onIntegers? = some relation) :
    holds context (.int n) operator v = .ok (relation n m) := by
  rw [holds_of_operator named rfl, EvaluationContext.resolve_of_noToken noToken]
  exact Operator.judge_integers small smallValue written asked

def plainContext : EvaluationContext := EvaluationContext.create ⟨2025, 9, 15, by decide⟩ []

/-- The integer below the bound with a sign, groups, blanks around it and a word after it. -/
def groupedText : String := "\t+9,007,199,254,740,991 students "

/-- The bound is greater than the integer below it. -/
theorem integers_compare_grouped :
    Int.natAbs 9007199254740992 ≤ 2 ^ 53 ∧ Int.natAbs 9007199254740991 ≤ 2 ^ 53 ∧
      (Value.text groupedText).Writes 9007199254740991 ∧
      (∀ s, (Value.text groupedText).asText? = some s →
        Value.get? plainContext.tokens (Text.trim s) = none) ∧
      Operator.ofValue? (.text "is greater THAN") = some .greaterThan ∧
      holds plainContext (.int 9007199254740992) (.text "is greater THAN") (.text groupedText) =
        .ok true := by
  have small : Int.natAbs 9007199254740992 ≤ 2 ^ 53 := by decide
  have smallValue : Int.natAbs 9007199254740991 ≤ 2 ^ 53 := by decide
  have digits : "+9,007,199,254,740,991".toList.filter (· ≠ ',') =
      '+' :: (toString 9007199254740991).toList := by decide +kernel
  have written : Numeral.Writes 9007199254740991 groupedText := by
    refine ⟨['\t'], "+9,007,199,254,740,991".toList, " students ".toList, ?_, ?_, ?_, ?_⟩
    · decide +kernel
    · intro c member
      rw [List.mem_singleton.mp member]
      decide
    · have spelled := Numeral.Spells.plus 9007199254740991
      rw [Nat.cast_ofNat] at spelled
      rw [digits]
      exact spelled
    · rintro c head
      cases head
      rfl
  have noToken : ∀ s, (Value.text groupedText).asText? = some s →
      Value.get? plainContext.tokens (Text.trim s) = none := by
    rintro s text
    cases text
    decide +kernel
  have named : Operator.ofValue? (.text "is greater THAN") = some .greaterThan := by
    decide +kernel
  exact ⟨small, smallValue, .text written, noToken, named,
    integers_compare small smallValue (.text written) noToken named rfl⟩

end Integers
end CourseAudit
