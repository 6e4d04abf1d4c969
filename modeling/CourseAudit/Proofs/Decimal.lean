import CourseAudit.Number.Numeral
import Mathlib.Data.List.DropRight
import Mathlib.Data.List.TakeWhile

/-!
Decimal texts of integers. A row of digits behind a sign is a numeral without point or exponent, and
the digits that a number is written with count that number. Blanks around it, commas in it and what
follows a blank make no difference.
-/
namespace CourseAudit

section Digits

variable {c : Char}

theorem toNat_of_isDigit (h : c.isDigit = true) : 48 ≤ c.toNat ∧ c.toNat ≤ 57 := by
  simp only [Char.isDigit, Bool.and_eq_true, decide_eq_true_eq] at h
  exact h

theorem Text.isBlank_of_isDigit (h : c.isDigit = true) : isBlank c = false := by
  obtain ⟨low, high⟩ := toNat_of_isDigit h
  simp [isBlank, isWhite]
  omega

theorem Text.digitValue?_of_isDigit (h : c.isDigit = true) :
    digitValue? c = some (c.toNat - 48) := by
  rw [digitValue?, if_pos h]

/-- A blank is a digit of no script. -/
theorem Text.isDecimalDigit_of_isBlank (h : isBlank c = true) : isDecimalDigit c = false := by
  have apart : ∀ first ∈ digitZeros, ∀ k < 10, isBlank (Char.ofNat (first + k)) = false := by
    decide +kernel
  have common : c.isDigit = false := Bool.eq_false_iff.mpr fun digit =>
    Bool.false_ne_true ((isBlank_of_isDigit digit).symm.trans h)
  have none : digitZeros.find? (fun first => first ≤ c.toNat && c.toNat < first + 10) = none := by
    rw [List.find?_eq_none]
    intro first member inside
    simp only [Bool.and_eq_true, decide_eq_true_iff] at inside
    have solid := apart first member (c.toNat - first) (by omega)
    rw [Nat.add_sub_cancel' inside.1, Char.ofNat_toNat, h] at solid
    cases solid
  simp only [isDecimalDigit, digitValue?, common, Bool.false_eq_true, if_false, none]
  rfl

theorem ne_of_isDigit {d : Char} (h : c.isDigit = true) (other : d.isDigit = false) : c ≠ d := by
  rintro rfl
  exact Bool.false_ne_true (other.symm.trans h)

end Digits

section Trimming

variable {p : Char → Bool} {before core after : List Char}

/-- Where no character is of the class, nothing is trimmed. -/
theorem Text.trimBoth_eq_self {cs : List Char} (h : ∀ c ∈ cs, p c = false) :
    trimBoth p cs = cs := by
  have kept {ds : List Char} (h : ∀ c ∈ ds, p c = false) : ds.dropWhile p = ds := by
    rw [List.dropWhile_eq_self_iff]
    intro some
    rw [h _ (List.getElem_mem _)]
    exact Bool.false_ne_true
  have back : ∀ c ∈ cs.reverse, p c = false := fun c member => h c (List.mem_reverse.mp member)
  rw [trimBoth, kept h, kept back, List.reverse_reverse]

theorem Text.dropWhile_solid (some : core ≠ []) (solid : ∀ c ∈ core, p c = false)
    (rest : List Char) : (core ++ rest).dropWhile p = core ++ rest := by
  cases core with
  | nil => exact absurd rfl some
  | cons c more =>
      have first : ¬ p c = true := by simp [solid c List.mem_cons_self]
      exact List.dropWhile_cons_of_neg first

/-- What is trimmed off the end of a text is trimmed off what follows its core. -/
theorem Text.rdropWhile_append (some : core ≠ []) (solid : ∀ c ∈ core, p c = false) :
    (core ++ after).rdropWhile p = core ++ after.rdropWhile p := by
  have back : ∀ c ∈ core.reverse, p c = false := fun c member =>
    solid c (List.mem_reverse.mp member)
  have kept : core.reverse.dropWhile p = core.reverse := by
    have dropped := dropWhile_solid (by simpa using some) back []
    rwa [List.append_nil] at dropped
  rw [List.rdropWhile, List.rdropWhile, List.reverse_append, List.dropWhile_append, kept]
  split
  · next nothing =>
      rw [List.isEmpty_iff] at nothing
      simp [nothing]
  · simp

/-- Trimming leaves the core of a text and what follows it, as far as that is not blank. -/
theorem Text.trimBoth_around (some : core ≠ []) (solid : ∀ c ∈ core, p c = false)
    (blank : ∀ c ∈ before, p c = true) (apart : ∀ c, after.head? = .some c → p c = true) :
    ∃ rest, trimBoth p (before ++ core ++ after) = core ++ rest ∧
      ∀ c, rest.head? = .some c → p c = true := by
  refine ⟨after.rdropWhile p, ?_, ?_⟩
  · rw [List.append_assoc, ← rdropWhile_append some solid, trimBoth,
      List.dropWhile_append_of_pos blank, dropWhile_solid some solid after]
    rfl
  · intro c head
    obtain ⟨more, split⟩ := List.rdropWhile_prefix p after
    apply apart
    rw [← split, List.head?_append, head]
    rfl

end Trimming

theorem Binary64.digitCount_le_iff {n places : Nat} (some : 0 < places) :
    digitCount n ≤ places ↔ n < Nat.pow 10 places := by
  unfold digitCount
  split
  · next zero =>
      have positive : 0 < Nat.pow 10 places := Nat.pow_pos (by decide)
      simp only [zero, positive, Nat.zero_le]
  · exact Nat.length_toDigits_le_iff (by decide) some

/-- A whole number of not too many digits is the number nearest to it. -/
theorem Binary64.ofDecimal_whole {s : Bool} {n : Nat} (short : digitCount n ≤ 400) :
    ofDecimal s n 0 = ofRatio s n 1 := by
  by_cases zero : n = 0
  · rw [zero]
    rfl
  have near : ¬ (n = 0 ∨ (0 : Int) + digitCount n < -400) := by omega
  have inside : ¬ (400 : Int) < 0 + digitCount n := by omega
  have unscaled : n * Nat.pow 10 (Int.toNat 0) = n := Nat.mul_one n
  rw [ofDecimal, if_neg near, if_neg inside, if_neg (by decide), unscaled]

namespace Numeral
open Text

/-- Neither digits nor a point nor an exponent begin with a blank. -/
theorem ends_of_blank {rest : List Char} (apart : ∀ c, rest.head? = some c → isBlank c = true) :
    rest.takeWhile isDecimalDigit = [] ∧ rest.dropWhile isDecimalDigit = rest ∧
      rest.head? ≠ some '.' ∧ takeExponent rest = 0 := by
  cases rest with
  | nil => exact ⟨rfl, rfl, nofun, rfl⟩
  | cons c more =>
      have blank : isBlank c = true := apart c rfl
      have stop := isDecimalDigit_of_isBlank blank
      have other {d : Char} (solid : isBlank d = false) : c ≠ d := by
        rintro rfl
        exact Bool.false_ne_true (solid.symm.trans blank)
      have unraised : ¬ (c = 'e' ∨ c = 'E') := by
        rintro (same | same)
        · exact other (by decide) same
        · exact other (by decide) same
      refine ⟨?_, ?_, ?_, ?_⟩
      · rw [List.takeWhile_cons_of_neg (by simp [stop])]
      · rw [List.dropWhile_cons_of_neg (by simp [stop])]
      · exact fun point => other (by decide) (Option.some.inj point)
      · rw [takeExponent, if_neg unraised]

section Row

variable {digits : List Char} (plain : ∀ c ∈ digits, c.isDigit = true)

include plain

theorem filter_digits : digits.filter (· ≠ ',') = digits := by
  rw [List.filter_eq_self]
  intro c member
  exact decide_eq_true (ne_of_isDigit (plain c member) (by decide))

theorem digitsValue_digits : digitsValue digits = Nat.ofDigitChars 10 digits 0 := by
  have same (n : Nat) : digits.foldl (fun n c => 10 * n + (digitValue? c).getD 0) n =
      Nat.ofDigitChars 10 digits n := by
    induction digits generalizing n with
    | nil => rfl
    | cons c rest ih =>
        rw [List.foldl_cons, Nat.ofDigitChars_cons,
          digitValue?_of_isDigit (plain c List.mem_cons_self)]
        exact ih (fun d member => plain d (List.mem_cons_of_mem c member)) _
  exact same 0

theorem takeSign_digits (some : digits ≠ []) (rest : List Char) :
    takeSign (digits ++ rest) = (false, digits ++ rest) := by
  cases digits with
  | nil => exact absurd rfl some
  | cons c more =>
      have digit := plain c List.mem_cons_self
      rw [List.cons_append, takeSign.eq_3]
      · exact fun cs same => ne_of_isDigit digit (by decide) (List.cons.inj same).1
      · exact fun cs same => ne_of_isDigit digit (by decide) (List.cons.inj same).1

/-- Behind its sign a row of digits is all whole part, up to a blank or the end of the text. -/
theorem split?_signed {cs rest : List Char} {negative : Bool} (some : digits ≠ [])
    (signed : takeSign cs = (negative, digits ++ rest))
    (apart : ∀ c, rest.head? = .some c → isBlank c = true) :
    split? cs = .some ⟨negative, digits, [], 0⟩ := by
  have decimal : ∀ c ∈ digits, isDecimalDigit c = true := fun c member => by
    rw [isDecimalDigit, digitValue?_of_isDigit (plain c member)]
    rfl
  obtain ⟨stops, stays, unpointed, unraised⟩ := ends_of_blank apart
  have whole : (digits ++ rest).takeWhile isDecimalDigit = digits := by
    rw [List.takeWhile_append_of_pos decimal, stops, List.append_nil]
  have left : (digits ++ rest).dropWhile isDecimalDigit = rest := by
    rw [List.dropWhile_append_of_pos decimal, stays]
  simp [split?, signed, whole, left, unpointed, unraised, some]

end Row

section Natural

variable {n : Nat}

theorem isDigit_toDigits : ∀ c ∈ Nat.toDigits 10 n, c.isDigit = true := fun _ =>
  Nat.isDigit_of_mem_toDigits (by decide) (by decide)

theorem toList_natural : (toString n).toList = Nat.toDigits 10 n := by
  rw [Nat.toString_eq_repr, Nat.repr_eq_ofList_toDigits, String.toList_ofList]

/-- The digits of a number count it. -/
theorem value_natural {negative : Bool} (short : Binary64.digitCount n ≤ 400) :
    Parts.value ⟨negative, Nat.toDigits 10 n, [], 0⟩ = Binary64.ofRatio negative n 1 := by
  have counted : digitsValue (Nat.toDigits 10 n ++ []) = n := by
    rw [List.append_nil, digitsValue_digits isDigit_toDigits,
      Nat.ofDigitChars_toDigits (by decide) (by decide)]
  rw [Parts.value, counted]
  exact Binary64.ofDecimal_whole short

end Natural

section Written

variable {m : Int} {cs : List Char}

/-- The decimal text of an integer. A natural number may have a plus sign. -/
inductive Spells : Int → List Char → Prop
  | plain (m : Int) : Spells m (toString m).toList
  | plus (n : Nat) : Spells n ('+' :: (toString n).toList)

/-- The signs that an integer may be written with. -/
def signs (m : Int) : List (List Char) := if m < 0 then [['-']] else [[], ['+']]

theorem signs_natural (n : Nat) : signs n = [[], ['+']] := if_neg (by omega)

theorem mem_sign {sign : List Char} {c : Char} (legal : sign ∈ signs m) (member : c ∈ sign) :
    c = '+' ∨ c = '-' := by
  unfold signs at legal
  split at legal
  · rw [List.mem_singleton.mp legal, List.mem_singleton] at member
    exact .inr member
  · simp only [List.mem_cons, List.not_mem_nil, or_false] at legal
    rcases legal with rfl | rfl
    · cases member
    · exact .inl (List.mem_singleton.mp member)

/-- A sign and the digits of the magnitude. -/
theorem Spells.eq_signed (h : Spells m cs) :
    ∃ sign ∈ signs m, cs = sign ++ Nat.toDigits 10 m.natAbs := by
  cases h with
  | plus n =>
      refine ⟨['+'], by simp [signs_natural], ?_⟩
      rw [toList_natural]
      rfl
  | plain m =>
      cases m with
      | ofNat n =>
          refine ⟨[], ?_, toList_natural⟩
          rw [Int.ofNat_eq_natCast, signs_natural]
          exact List.mem_cons_self
      | negSucc n =>
          have written : toString (Int.negSucc n) = "-" ++ toString (n + 1) := rfl
          refine ⟨['-'], by simp [signs], ?_⟩
          rw [written, String.toList_append, toList_natural]
          rfl

theorem Spells.takeSign_eq (h : Spells m cs) (rest : List Char) :
    takeSign (cs ++ rest) = (decide (m < 0), Nat.toDigits 10 m.natAbs ++ rest) := by
  obtain ⟨sign, legal, rfl⟩ := h.eq_signed
  rw [List.append_assoc]
  unfold signs at legal
  split at legal
  · next negative =>
      rw [List.mem_singleton] at legal
      rw [legal, decide_eq_true negative]
      rfl
  · next natural =>
      rw [decide_eq_false natural]
      simp only [List.mem_cons, List.not_mem_nil, or_false] at legal
      rcases legal with rfl | rfl
      · exact takeSign_digits isDigit_toDigits Nat.toDigits_ne_nil rest
      · rfl

/-- No character of it is blank. -/
theorem Spells.solid (h : Spells m cs) : ∀ c ∈ cs, isBlank c = false := by
  obtain ⟨sign, legal, rfl⟩ := h.eq_signed
  intro c member
  rw [List.mem_append] at member
  rcases member with first | digit
  · rcases mem_sign legal first with rfl | rfl
    · decide
    · decide
  · exact isBlank_of_isDigit (isDigit_toDigits c digit)

theorem Spells.ne_nil (h : Spells m cs) : cs ≠ [] := by
  obtain ⟨sign, -, rfl⟩ := h.eq_signed
  exact List.append_ne_nil_of_right_ne_nil _ Nat.toDigits_ne_nil

/-- The texts that write an integer: blanks, its decimal text with commas anywhere in it, and
whatever follows a blank. -/
def Writes (m : Int) (s : String) : Prop :=
  ∃ before core after, s.toList = before ++ core ++ after ∧ (∀ c ∈ before, isBlank c = true) ∧
    Spells m (core.filter (· ≠ ',')) ∧ ∀ c, after.head? = some c → isBlank c = true

/-- Every text that writes an integer is read as the number nearest to it. -/
theorem read_of_writes {s : String} (written : Writes m s)
    (short : Binary64.digitCount m.natAbs ≤ 400) :
    read s = some (Binary64.ofInt m) := by
  obtain ⟨before, core, after, split, blank, spelled, apart⟩ := written
  have solid : ∀ c ∈ core, isBlank c = false := by
    intro c member
    by_cases comma : c = ','
    · rw [comma]
      rfl
    · exact spelled.solid c (List.mem_filter.mpr ⟨member, decide_eq_true comma⟩)
  have some : core ≠ [] := by
    rintro rfl
    exact spelled.ne_nil rfl
  obtain ⟨rest, trimmed, blankRest⟩ := trimBoth_around some solid blank apart
  have restApart : ∀ c, (rest.filter (· ≠ ',')).head? = .some c → isBlank c = true := by
    intro c head
    cases rest with
    | nil => cases head
    | cons d more =>
        have blankHead : isBlank d = true := blankRest d rfl
        have other : d ≠ ',' := by
          rintro rfl
          cases blankHead
        have kept : (d :: more).filter (· ≠ ',') = d :: more.filter (· ≠ ',') := by simp [other]
        rw [kept] at head
        cases head
        exact blankHead
  have parts := split?_signed isDigit_toDigits Nat.toDigits_ne_nil
    (spelled.takeSign_eq (rest.filter (· ≠ ','))) restApart
  rw [read, split, trimmed, List.filter_append, parts, Option.map_some, value_natural short]
  rfl

/-- The decimal text of an integer writes it. -/
theorem writes_toString (m : Int) : Writes m (toString m) := by
  have spelled := Spells.plain m
  have kept : (toString m).toList.filter (· ≠ ',') = (toString m).toList := by
    obtain ⟨sign, legal, written⟩ := spelled.eq_signed
    have signed : sign.filter (· ≠ ',') = sign := by
      rw [List.filter_eq_self]
      intro c member
      rcases mem_sign legal member with rfl | rfl
      · decide
      · decide
    rw [written, List.filter_append, signed, filter_digits isDigit_toDigits]
  exact ⟨[], (toString m).toList, [], by simp, nofun, kept.symm ▸ spelled, nofun⟩

/-- The decimal text of a natural number is read as the number nearest to it. -/
theorem read_natural {n : Nat} (short : Binary64.digitCount n ≤ 400) :
    read (toString n) = some (Binary64.ofInt n) :=
  read_of_writes (writes_toString n) short

end Written

end Numeral
end CourseAudit
