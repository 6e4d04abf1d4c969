import CourseAudit.Proofs.Comparison
import CourseAudit.Proofs.Tokens
import Mathlib.Data.List.TakeWhile

/-!
Letter case and the parts of texts. Capitals from A to Z count as their small letters wherever texts
are compared: in the small letters of a whole text, whose other rules look at them only to tell that
they are letters, and in the numeral at its head, which knows no letter but that of an exponent.
Comparing whole texts is stronger than comparing their ends, and that is stronger than searching.
-/
namespace CourseAudit

namespace Text

/-- Texts that differ at most in the case of letters from A to Z. -/
def Recased (s t : String) : Prop := s.toList.map Char.toLower = t.toList.map Char.toLower

theorem toLower_cases (c : Char) : c.toLower = c ∨ ∃ k < 26, c = Char.ofNat (65 + k) := by
  by_cases capital : c.val ≥ 'A'.val ∧ c.val ≤ 'Z'.val
  · have low : 65 ≤ c.toNat := capital.1
    have high : c.toNat ≤ 90 := capital.2
    refine .inr ⟨c.toNat - 65, by omega, ?_⟩
    rw [Nat.add_sub_cancel' low, Char.ofNat_toNat]
  · exact .inl (dif_neg capital)

/-- What does not tell capitals from small letters of the alphabet does not look at case. -/
theorem toLower_congr {A : Type} {p : Char → A}
    (alike : ∀ k < 26, p (Char.ofNat (65 + k)).toLower = p (Char.ofNat (65 + k))) (c : Char) :
    p c.toLower = p c := by
  rcases toLower_cases c with same | ⟨k, few, rfl⟩
  · rw [same]
  · exact alike k few

theorem toLower_iff {P : Char → Prop}
    (alike : ∀ k < 26, P (Char.ofNat (65 + k)).toLower ↔ P (Char.ofNat (65 + k))) (c : Char) :
    P c.toLower ↔ P c := by
  rcases toLower_cases c with same | ⟨k, few, rfl⟩
  · rw [same]
  · exact alike k few

section Lists

variable {p : Char → Bool} (blind : ∀ c, p c.toLower = p c) (cs : List Char)

include blind

theorem takeWhile_toLower :
    (cs.map Char.toLower).takeWhile p = (cs.takeWhile p).map Char.toLower := by
  rw [List.takeWhile_map]
  exact congrArg (fun q => (cs.takeWhile q).map Char.toLower) (funext blind)

theorem dropWhile_toLower :
    (cs.map Char.toLower).dropWhile p = (cs.dropWhile p).map Char.toLower := by
  rw [List.dropWhile_map]
  exact congrArg (fun q => (cs.dropWhile q).map Char.toLower) (funext blind)

theorem filter_toLower : (cs.map Char.toLower).filter p = (cs.filter p).map Char.toLower := by
  rw [List.filter_map]
  exact congrArg (fun q => (cs.filter q).map Char.toLower) (funext blind)

theorem trimBoth_toLower : trimBoth p (cs.map Char.toLower) = (trimBoth p cs).map Char.toLower := by
  simp only [trimBoth, dropWhile_toLower blind, ← List.map_reverse]

end Lists

theorem isBlank_toLower : ∀ c, isBlank c.toLower = isBlank c :=
  toLower_congr (by decide +kernel)

theorem isDecimalDigit_toLower : ∀ c, isDecimalDigit c.toLower = isDecimalDigit c :=
  toLower_congr (by decide +kernel)

theorem isCaseIgnorable_toLower : ∀ c, isCaseIgnorable c.toLower = isCaseIgnorable c :=
  toLower_congr (by decide +kernel)

theorem isCased_toLower : ∀ c, isCased c.toLower = isCased c :=
  toLower_congr (by decide +kernel)

theorem smallLetter_toLower : ∀ c, smallLetter c.toLower = smallLetter c :=
  toLower_congr (by decide +kernel)

theorem meetsCased_toLower (cs : List Char) : meetsCased (cs.map Char.toLower) = meetsCased cs := by
  rw [meetsCased, meetsCased, dropWhile_toLower isCaseIgnorable_toLower]
  cases cs.dropWhile isCaseIgnorable with
  | nil => rfl
  | cons c rest => exact isCased_toLower c

/-- The two letters with rules of their own are none from A to Z, and for the rules of sigma it
matters only that its neighbours are letters. -/
theorem smallLetters_toLower (before : List Char) (c : Char) (after : List Char) :
    smallLetters (before.map Char.toLower) c.toLower (after.map Char.toLower) =
      smallLetters before c after := by
  have sigma : c.toLower.toNat = 0x3a3 ↔ c.toNat = 0x3a3 :=
    toLower_iff (P := fun c => c.toNat = 0x3a3) (by decide) c
  have dotted : c.toLower.toNat = 0x130 ↔ c.toNat = 0x130 :=
    toLower_iff (P := fun c => c.toNat = 0x130) (by decide) c
  simp only [smallLetters, meetsCased_toLower, smallLetter_toLower, sigma, dotted]

theorem lowerFrom_toLower (before cs : List Char) :
    lowerFrom (before.map Char.toLower) (cs.map Char.toLower) = lowerFrom before cs := by
  induction cs generalizing before with
  | nil => rfl
  | cons c after ih =>
      rw [List.map_cons, lowerFrom, lowerFrom, smallLetters_toLower]
      exact congrArg _ (ih (c :: before))

/-- Texts in small letters do not show what case they were written in. -/
theorem Recased.lower_eq {s t : String} (h : Recased s t) : lower s = lower t := by
  have written (s : String) : lower s = String.ofList (lowerFrom [] (s.toList.map Char.toLower)) :=
    congrArg String.ofList (lowerFrom_toLower [] s.toList).symm
  rw [written s, written t, h]

end Text

namespace Numeral
open Text

variable (cs : List Char)

/-- The digits at the head of a text have no case. -/
theorem takeDigits_toLower :
    (cs.map Char.toLower).takeWhile isDecimalDigit = cs.takeWhile isDecimalDigit := by
  have letters : ∀ k < 26, isDecimalDigit (Char.ofNat (65 + k)) = false := by decide +kernel
  have solid : ∀ c ∈ cs.takeWhile isDecimalDigit, c.toLower = id c := by
    intro c member
    have digit : isDecimalDigit c = true := List.mem_takeWhile_imp member
    rcases toLower_cases c with same | ⟨k, few, rfl⟩
    · exact same
    · exact absurd (digit.symm.trans (letters k few)) (by decide)
  rw [takeWhile_toLower isDecimalDigit_toLower, List.map_congr_left solid, List.map_id]

theorem takeSign_toLower : takeSign (cs.map Char.toLower) =
    ((takeSign cs).1, (takeSign cs).2.map Char.toLower) := by
  cases cs with
  | nil => rfl
  | cons c rest =>
      have minus : c.toLower = '-' ↔ c = '-' := toLower_iff (P := (· = '-')) (by decide) c
      have plus : c.toLower = '+' ↔ c = '+' := toLower_iff (P := (· = '+')) (by decide) c
      have signs (c : Char) (rest : List Char) : takeSign (c :: rest) =
          if c = '-' then (true, rest)
          else if c = '+' then (false, rest) else (false, c :: rest) := by
        unfold takeSign
        split <;> simp_all
      rw [List.map_cons, signs, signs]
      simp only [minus, plus]
      split
      · rfl
      · split <;> rfl

theorem takeExponent_toLower : takeExponent (cs.map Char.toLower) = takeExponent cs := by
  cases cs with
  | nil => rfl
  | cons c rest =>
      have mark : (c.toLower = 'e' ∨ c.toLower = 'E') ↔ (c = 'e' ∨ c = 'E') :=
        toLower_iff (P := fun c => c = 'e' ∨ c = 'E') (by decide) c
      simp only [List.map_cons, takeExponent, mark, takeSign_toLower, takeDigits_toLower]

theorem split?_toLower : split? (cs.map Char.toLower) = split? cs := by
  have point (cs : List Char) : ((cs.map Char.toLower).head? == some '.') =
      (cs.head? == some '.') := by
    cases cs with
    | nil => rfl
    | cons c rest => exact toLower_congr (p := fun c => some c == some '.') (by decide) c
  simp only [split?, takeSign_toLower, takeDigits_toLower, dropWhile_toLower isDecimalDigit_toLower,
    point, ← List.map_drop]
  split <;> simp only [takeExponent_toLower]

/-- The number at the head of a text does not show its case either. -/
theorem read_recased {s t : String} (h : Recased s t) : read s = read t := by
  have comma : ∀ c : Char, decide (c.toLower ≠ ',') = decide (c ≠ ',') :=
    toLower_congr (p := fun c => decide (c ≠ ',')) (by decide)
  have written (s : String) : read s =
      (split? ((trimBoth isBlank (s.toList.map Char.toLower)).filter (· ≠ ','))).map
        Parts.value := by
    rw [trimBoth_toLower isBlank_toLower, filter_toLower comma, split?_toLower]
    rfl
  rw [written s, written t, h]

end Numeral

namespace Text

variable {text part : String}

theorem isInfix_iff {part cs : List Char} : isInfix part cs = true ↔ part <:+: cs := by
  induction cs with
  | nil => rw [isInfix, List.isEmpty_iff, List.infix_nil]
  | cons c rest ih =>
      rw [isInfix, Bool.or_eq_true, List.isPrefixOf_iff_prefix, ih, List.infix_cons_iff]

theorem startsWith_self (text : String) : startsWith text text = true :=
  List.isPrefixOf_iff_prefix.mpr List.prefix_rfl

theorem endsWith_self (text : String) : endsWith text text = true :=
  List.isSuffixOf_iff_suffix.mpr List.suffix_rfl

theorem contains_of_startsWith (h : startsWith text part = true) : contains text part = true :=
  isInfix_iff.mpr (List.isPrefixOf_iff_prefix.mp h).isInfix

theorem contains_of_endsWith (h : endsWith text part = true) : contains text part = true :=
  isInfix_iff.mpr (List.isSuffixOf_iff_suffix.mp h).isInfix

end Text

/-- A value, or a text that differs from it at most in the case of letters from A to Z. -/
inductive Value.Recased : Value → Value → Prop
  | same (v : Value) : Recased v v
  | text {s t : String} (letters : Text.Recased s t) : Recased (.text s) (.text t)

namespace Value.Recased

variable {v w : Value} (h : v.Recased w)

include h

theorem isNull_eq : v.isNull = w.isNull := by
  cases h with
  | same => rfl
  | text letters => rfl

theorem comparable_eq : v.comparable = w.comparable := by
  cases h with
  | same => rfl
  | text letters => exact congrArg Except.ok letters.lower_eq

theorem toNumber_eq : v.toNumber = w.toNumber := by
  cases h with
  | same => rfl
  | text letters => exact congrArg Except.ok (Numeral.read_recased letters)

theorem isState_eq (names : List String) : isState names v = isState names w := by
  cases h with
  | same => rfl
  | text letters =>
      have compared := (Recased.text letters).comparable_eq
      simp only [isState, compared]

end Value.Recased

theorem equalTo_recased {actual other expected value : Value} (left : actual.Recased other)
    (right : expected.Recased value) : equalTo actual expected = equalTo other value := by
  cases left with
  | same v => simp only [equalTo, onTexts, right.comparable_eq, right.toNumber_eq]
  | text letters =>
      have compared := (Value.Recased.text letters).comparable_eq
      simp only [equalTo, onTexts, right.comparable_eq, compared]

/-- Texts that are related are related by all that follows. -/
theorem onTexts_imp {relation weaker : String → String → Bool}
    (h : ∀ first second, relation first second = true → weaker first second = true)
    {first second : Value} (held : onTexts relation first second = .ok true) :
    onTexts weaker first second = .ok true := by
  obtain ⟨s, compared, held⟩ := bind_eq_ok_iff.mp held
  obtain ⟨t, expected, held⟩ := bind_eq_ok_iff.mp held
  rw [onTexts, compared, ok_bind, expected]
  exact congrArg Except.ok (h s t (Except.ok.inj held))

theorem onTexts_swap {relation : String → String → Bool} {first second : Value} {answer : Bool}
    (held : onTexts relation first second = .ok answer) :
    onTexts (fun s t => relation t s) second first = .ok answer := by
  obtain ⟨s, compared, held⟩ := bind_eq_ok_iff.mp held
  obtain ⟨t, expected, held⟩ := bind_eq_ok_iff.mp held
  rw [onTexts, expected, ok_bind, compared]
  exact held

namespace Operator

/-- The operators that compare texts whatever their case, and those that ask for a state. -/
def ofTexts : List Operator :=
  [.is, .isNot, .equals, .doesNotEqual, .contains, .startsWith, .endsWith, .isPublished,
    .isNotPublished, .isComplete, .isNotComplete, .isActive, .isInactive]

/-- What follows for a text from what an operator says of it. -/
def weaker : Operator → List Operator
  | .is | .equals => [.startsWith, .endsWith, .contains]
  | .startsWith | .endsWith => [.contains]
  | _ => []

theorem judge_recased {op : Operator} (member : op ∈ ofTexts) {actual other expected value : Value}
    (left : actual.Recased other) (right : expected.Recased value) :
    op.judge actual expected = op.judge other value := by
  simp only [ofTexts, List.mem_cons, List.not_mem_nil, or_false] at member
  rcases member with rfl | rfl | rfl | rfl | rfl | rfl | rfl | rfl | rfl | rfl | rfl | rfl | rfl
  all_goals simp only [judge, onTexts, equalTo_recased left right, left.comparable_eq,
    right.comparable_eq, left.isState_eq]

/-- Of a text, what is the same begins and ends the same, and what begins or ends it is in it. -/
theorem judge_weaker {op than : Operator} (member : than ∈ op.weaker) {s : String}
    {expected : Value} (h : op.judge (.text s) expected = .ok true) :
    than.judge (.text s) expected = .ok true := by
  cases op with
  | is | equals =>
      have same : onTexts (· == ·) (.text s) expected = .ok true := h
      simp only [weaker, List.mem_cons, List.not_mem_nil, or_false] at member
      rcases member with rfl | rfl | rfl
      · refine onTexts_imp (fun s t same => ?_) same
        rw [beq_iff_eq.mp same, Text.startsWith_self]
      · refine onTexts_imp (fun s t same => ?_) same
        rw [beq_iff_eq.mp same, Text.endsWith_self]
      · refine onTexts_swap (onTexts_imp (fun s t same => ?_) same)
        rw [beq_iff_eq.mp same, Text.contains_of_startsWith (Text.startsWith_self _)]
  | startsWith =>
      rw [weaker, List.mem_singleton] at member
      subst member
      exact onTexts_swap (onTexts_imp (fun _ _ => Text.contains_of_startsWith) h)
  | endsWith =>
      rw [weaker, List.mem_singleton] at member
      subst member
      exact onTexts_swap (onTexts_imp (fun _ _ => Text.contains_of_endsWith) h)
  | _ => cases member

end Operator

/-- How texts are compared in a context: whatever the case of letters from A to Z on either side, as
long as the expected text is no token either way, and the more of a text, the more strictly. -/
structure ComparesTexts (context : EvaluationContext) : Prop where
  letters : ∀ op ∈ Operator.ofTexts, ∀ operator actual other s t,
    Operator.ofValue? operator = some op → Value.Recased actual other → Text.Recased s t →
    Value.get? context.tokens (Text.trim s) = none →
    Value.get? context.tokens (Text.trim t) = none →
    holds context actual operator (.text s) = holds context other operator (.text t)
  weaker : ∀ op than, than ∈ Operator.weaker op → ∀ operator weak s expected,
    Operator.ofValue? operator = some op → Operator.ofValue? weak = some than →
    holds context (.text s) operator expected = .ok true →
    holds context (.text s) weak expected = .ok true

theorem texts_compare (context : EvaluationContext) : ComparesTexts context where
  letters op member operator actual other s t named left right plain changed := by
    simp only [holds, named, EvaluationContext.resolve_plain plain,
      EvaluationContext.resolve_plain changed, left.isNull_eq,
      Operator.judge_recased member left (.text right)]
  weaker op than member operator weak s expected named known held := by
    rw [holds_of_operator named rfl] at held
    rw [holds_of_operator known rfl]
    exact Operator.judge_weaker member held

-- a final sigma stays one whatever the case of the letters around it
example : holds (.ofDay ⟨2025, 10, 1, by decide⟩) (.text "aΣb OΣ") (.text "Is") (.text "Aσb oς") =
    .ok true := by decide +kernel

end CourseAudit
