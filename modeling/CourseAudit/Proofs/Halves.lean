import CourseAudit.Evaluation.Display
import CourseAudit.Proofs.Entries
import CourseAudit.Proofs.Obstacle

/-!
Halves that stand alone, in texts and in values. Digits, marks and the words of the vocabularies
are plain, so a half in the text of a value has come with a text in the value.
-/
namespace CourseAudit

namespace Text

/-- Whether a character stands for a half. -/
def isHalf (c : Char) : Bool := (half? c).isSome

variable {s : String} {cs : List Char}

@[simp] theorem hasHalf_ofList (cs : List Char) : hasHalf (String.ofList cs) = cs.any isHalf := by
  rw [hasHalf, String.toList_ofList]
  rfl

@[simp] theorem hasHalf_append (s t : String) :
    hasHalf (s ++ t) = (hasHalf s || hasHalf t) := by
  rw [hasHalf, String.toList_append, List.any_append]
  rfl

theorem any_isHalf_of_subset {part : List Char} (inside : part ⊆ cs)
    (whole : cs.any isHalf = false) : part.any isHalf = false :=
  List.any_eq_false.mpr fun c member => List.any_eq_false.mp whole c (inside member)

@[simp] theorem isHalf_zero : isHalf '0' = false := by decide

theorem isHalf_digitChar (n : Nat) : isHalf n.digitChar = false := by
  have digits : ∀ m < 16, isHalf (Nat.digitChar m) = false := by decide
  by_cases digit : n < 16
  · exact digits n digit
  · rw [Nat.digitChar_eq_star.mpr (Nat.not_lt.mp digit)]
    decide

@[simp] theorem any_isHalf_toDigits (base n : Nat) : (Nat.toDigits base n).any isHalf = false := by
  have core (fuel : Nat) : ∀ n cs, cs.any isHalf = false →
      (Nat.toDigitsCore base fuel n cs).any isHalf = false := by
    induction fuel with
    | zero => exact fun _ _ whole => whole
    | succ fuel ih =>
        intro n cs whole
        have more : ((n % base).digitChar :: cs).any isHalf = false := by
          rw [List.any_cons, isHalf_digitChar, whole]
          rfl
        rw [Nat.toDigitsCore]
        split
        · exact more
        · exact ih _ _ more
  exact core _ n [] rfl

@[simp] theorem hasHalf_repr_nat (n : Nat) : hasHalf n.repr = false := by
  rw [Nat.repr_eq_ofList_toDigits, hasHalf_ofList, any_isHalf_toDigits]

@[simp] theorem hasHalf_repr_int (i : Int) : hasHalf i.repr = false := by
  cases i with
  | ofNat n => exact hasHalf_repr_nat n
  | negSucc n =>
      rw [Int.repr, hasHalf_append, hasHalf_repr_nat]
      decide

@[simp] theorem hasHalf_pad (width n : Nat) : hasHalf (CivilDate.pad width n) = false := by
  simp [CivilDate.pad]

theorem hasHalf_joined {parts : List String} (whole : ∀ part ∈ parts, hasHalf part = false) :
    hasHalf (Value.joined parts) = false := by
  have comma : hasHalf ", " = false := by decide
  unfold Value.joined
  induction parts with
  | nil => decide
  | cons part rest ih =>
      have first := whole part List.mem_cons_self
      have later := ih fun other member => whole other (List.mem_cons_of_mem _ member)
      cases rest with
      | nil => rwa [String.intercalate_singleton]
      | cons next rest =>
          rw [String.intercalate_cons_cons, hasHalf_append, hasHalf_append, first, comma, later]
          rfl

@[simp] theorem any_isHalf_hexDigits (width code : Nat) :
    (hexDigits width code).any isHalf = false := by
  simp [hexDigits]

theorem any_isHalf_escaped {quote c : Char} (whole : isHalf c = false) :
    (escaped quote c).any isHalf = false := by
  have marks : isHalf '\\' = false ∧ isHalf 'n' = false ∧ isHalf 'r' = false ∧
      isHalf 't' = false ∧ isHalf 'x' = false ∧ isHalf 'u' = false ∧ isHalf 'U' = false := by
    decide
  unfold escaped
  repeat' split
  all_goals simp [marks, whole]

/-- Quotes are plain, and what is between them is either plain or as it was. -/
theorem hasHalf_quoted (whole : hasHalf s = false) : hasHalf (quoted s) = false := by
  have between (quote : Char) : (s.toList.flatMap (escaped quote)).any isHalf = false := by
    rw [List.any_flatMap, List.any_eq_false]
    intro c member
    rw [any_isHalf_escaped (Bool.eq_false_iff.mpr (List.any_eq_false.mp whole c member))]
    exact Bool.false_ne_true
  have quotes : isHalf '"' = false ∧ isHalf '\'' = false := by decide
  unfold quoted
  dsimp only
  split
  all_goals simp only [hasHalf_ofList, List.any_cons, List.any_append, between, quotes,
    List.any_nil, Bool.or_self]

end Text

open Text

namespace Binary64

theorem any_isHalf_pointed {digits : List Char} (whole : digits.any isHalf = false) (place : Int) :
    (pointed digits place).any isHalf = false := by
  have point : isHalf '.' = false := by decide
  have before := any_isHalf_of_subset (List.take_subset place.toNat digits) whole
  have behind := any_isHalf_of_subset (List.drop_subset place.toNat digits) whole
  unfold pointed
  dsimp only
  repeat' split
  all_goals simp_all

theorem any_isHalf_exponential {digits : List Char} (whole : digits.any isHalf = false)
    (form : DecimalForm) (exponent : Int) :
    (exponential form digits exponent).any isHalf = false := by
  have marks : isHalf '.' = false ∧ isHalf 'e' = false ∧ isHalf '-' = false ∧
      isHalf '+' = false := by decide
  have before := any_isHalf_of_subset (List.take_subset 1 digits) whole
  have behind := any_isHalf_of_subset (List.drop_subset 1 digits) whole
  unfold exponential padLeft
  dsimp only
  repeat' split
  all_goals simp_all

theorem any_isHalf_writeMagnitude (form : DecimalForm) (significand : Nat) (exponent : Int) :
    (writeMagnitude form significand exponent).any isHalf = false := by
  unfold writeMagnitude
  dsimp only
  repeat' split
  · decide
  · exact any_isHalf_pointed (any_isHalf_toDigits ..) _
  · exact any_isHalf_exponential (any_isHalf_toDigits ..) _ _

@[simp] theorem hasHalf_toText (x : Binary64) : hasHalf x.toText = false := by
  cases x with
  | finite negative m e =>
      rw [toText, hasHalf_ofList, List.any_append, any_isHalf_writeMagnitude]
      cases negative <;> decide
  | infinite negative => cases negative <;> decide
  | nan => exact (by decide : hasHalf "nan" = false)

end Binary64

@[simp] theorem CivilDate.hasHalf_iso (d : CivilDate) : hasHalf d.iso = false := by
  have hyphen : hasHalf "-" = false := by decide
  simp [iso, hyphen]

@[simp] theorem CivilDate.hasHalf_slashed (d : CivilDate) : hasHalf d.slashed = false := by
  have slash : hasHalf "/" = false := by decide
  simp [slashed, slash]

theorem Timestamp.hasHalf_offsetText (offset : Int) : hasHalf (offsetText offset) = false := by
  have marks : ∀ mark ∈ ["", "-", "+", ":", "."], hasHalf mark = false := by decide +kernel
  simp only [List.forall_mem_cons] at marks
  unfold offsetText
  dsimp only
  repeat' split
  all_goals simp [marks]

theorem Timestamp.hasHalf_textWith {mark : String} (plain : hasHalf mark = false) (t : Timestamp) :
    hasHalf (t.textWith mark) = false := by
  have marks : ∀ mark ∈ ["", ":", "."], hasHalf mark = false := by decide +kernel
  simp only [List.forall_mem_cons] at marks
  unfold textWith clockText
  cases t.offset with
  | none => split <;> simp [marks, plain]
  | some offset => split <;> simp [marks, plain, hasHalf_offsetText]

theorem Choice.hasHalf_label (c : Choice) : hasHalf c.label = false := by
  cases c with
  | operator o | group o | syllabusSource o | lmsSource o | attributeSource o | display o
  | result o => cases o <;> decide +kernel

theorem Choice.hasHalf_constant (c : Choice) : hasHalf c.constant = false := by
  cases c with
  | operator o | group o | syllabusSource o | lmsSource o | attributeSource o | display o
  | result o => cases o <;> decide +kernel

namespace Value

mutual

/-- Whether some text of a value holds a half that stands alone. -/
def holdsHalf : Value → Bool
  | .text s => Text.hasHalf s
  | .list items | .tuple items => itemsHoldHalf items
  | .dict entries => entriesHoldHalf entries
  | _ => false

def itemsHoldHalf : List Value → Bool
  | [] => false
  | v :: rest => v.holdsHalf || itemsHoldHalf rest

def entriesHoldHalf : List (String × Value) → Bool
  | [] => false
  | (name, v) :: rest => Text.hasHalf name || v.holdsHalf || entriesHoldHalf rest

end

theorem hasHalf_spanText (micros : Int) : hasHalf (spanText micros) = false := by
  have span : hasHalf "datetime.timedelta(" = false ∧ hasHalf ")" = false := by decide
  have part {name : String} (plain : hasHalf name = false) (n : Int) :
      ∀ text ∈ if n = 0 then [] else [name ++ "=" ++ toString n], hasHalf text = false := by
    have equals : hasHalf "=" = false := by decide
    split <;> simp [plain, equals]
  unfold spanText
  dsimp only
  split
  · decide
  · rw [hasHalf_append, hasHalf_append, span.1, span.2, hasHalf_joined]
    · rfl
    · simp only [List.forall_mem_append]
      exact ⟨⟨part (by decide) _, part (by decide) _⟩, part (by decide) _⟩

theorem hasHalf_zoneText (offset : Int) : hasHalf (zoneText offset) = false := by
  have names : ∀ name ∈ ["datetime.timezone.utc", "datetime.timezone(", ")"],
      hasHalf name = false := by decide +kernel
  simp only [List.forall_mem_cons] at names
  unfold zoneText
  split
  all_goals simp [names, hasHalf_spanText]

theorem hasHalf_dateParts {d : CivilDate} : ∀ part ∈ dateParts d, hasHalf part = false := by
  simp [dateParts]

theorem hasHalf_momentParts {t : Timestamp} : ∀ part ∈ momentParts t, hasHalf part = false := by
  have zone : hasHalf "tzinfo=" = false := by decide
  have number {p : Prop} [Decidable p] (n : Nat) :
      ∀ part ∈ if p then [] else [toString n], hasHalf part = false := by
    split <;> simp
  unfold momentParts
  simp only [List.forall_mem_append]
  refine ⟨⟨⟨⟨hasHalf_dateParts, by simp⟩, number _⟩, number _⟩, ?_⟩
  cases t.offset <;> simp [zone, hasHalf_zoneText]

mutual

theorem hasHalf_inner : ∀ {v : Value}, v.holdsHalf = false → hasHalf v.inner = false
  | .null, _ => by decide
  | .bool b, _ => by cases b <;> decide
  | .int i, _ => hasHalf_repr_int i
  | .float x, _ => Binary64.hasHalf_toText x
  | .text s, whole => hasHalf_quoted whole
  | .list items, whole => by
      have brackets : hasHalf "[" = false ∧ hasHalf "]" = false := by decide
      rw [holdsHalf] at whole
      change hasHalf ("[" ++ joined (innerList items) ++ "]") = false
      simp [brackets, hasHalf_joined (hasHalf_innerList whole)]
  | .tuple [], _ => by decide
  | .tuple [item], whole => by
      have brackets : hasHalf "(" = false ∧ hasHalf ",)" = false := by decide
      rw [holdsHalf, itemsHoldHalf, Bool.or_eq_false_iff] at whole
      change hasHalf ("(" ++ inner item ++ ",)") = false
      simp [brackets, hasHalf_inner whole.1]
  | .tuple (first :: second :: rest), whole => by
      have brackets : hasHalf "(" = false ∧ hasHalf ")" = false := by decide
      rw [holdsHalf] at whole
      change hasHalf ("(" ++ joined (innerList (first :: second :: rest)) ++ ")") = false
      simp [brackets, hasHalf_joined (hasHalf_innerList whole)]
  | .dict entries, whole => by
      have braces : hasHalf "\x7b" = false ∧ hasHalf "\x7d" = false := by decide
      rw [holdsHalf] at whole
      change hasHalf ("\x7b" ++ joined (innerEntries entries) ++ "\x7d") = false
      simp [braces, hasHalf_joined (hasHalf_innerEntries whole)]
  | .date d, _ => by
      have names : hasHalf "datetime.date(" = false ∧ hasHalf ")" = false := by decide
      change hasHalf ("datetime.date(" ++ joined (dateParts d) ++ ")") = false
      simp [names, hasHalf_joined hasHalf_dateParts]
  | .moment t, _ => by
      have names : hasHalf "datetime.datetime(" = false ∧ hasHalf ")" = false := by decide
      change hasHalf ("datetime.datetime(" ++ joined (momentParts t) ++ ")") = false
      simp [names, hasHalf_joined hasHalf_momentParts]
  | .choice c, _ => by
      have names : ∀ name ∈ ["<", ": ", ">"], hasHalf name = false := by decide +kernel
      simp only [List.forall_mem_cons] at names
      change hasHalf ("<" ++ c.constant ++ ": " ++ quoted c.label ++ ">") = false
      simp [names, c.hasHalf_constant, hasHalf_quoted c.hasHalf_label]

theorem hasHalf_innerList : ∀ {items : List Value}, itemsHoldHalf items = false →
    ∀ text ∈ innerList items, hasHalf text = false
  | [], _ => by simp [innerList]
  | v :: rest, whole => by
      rw [itemsHoldHalf, Bool.or_eq_false_iff] at whole
      exact List.forall_mem_cons.mpr ⟨hasHalf_inner whole.1, hasHalf_innerList whole.2⟩

theorem hasHalf_innerEntries : ∀ {entries : List (String × Value)},
    entriesHoldHalf entries = false → ∀ text ∈ innerEntries entries, hasHalf text = false
  | [], _ => by simp [innerEntries]
  | (name, v) :: rest, whole => by
      rw [entriesHoldHalf, Bool.or_eq_false_iff, Bool.or_eq_false_iff] at whole
      obtain ⟨⟨named, first⟩, later⟩ := whole
      have colon : hasHalf ": " = false := by decide
      refine List.forall_mem_cons.mpr ⟨?_, hasHalf_innerEntries later⟩
      simp [hasHalf_quoted named, colon, hasHalf_inner first]

end

/-- The text of a value holds no half when the value holds none. -/
theorem hasHalf_toText {v : Value} (whole : v.holdsHalf = false) : hasHalf v.toText = false := by
  cases v with
  | text s => exact whole
  | choice c => exact c.hasHalf_constant
  | date d => exact d.hasHalf_iso
  | moment t => exact t.hasHalf_textWith (by decide)
  | _ => exact hasHalf_inner whole

theorem hasHalf_write {v : Value} {text : String} (whole : v.holdsHalf = false)
    (written : v.write = .ok text) : hasHalf text = false := by
  obtain ⟨-, rfl⟩ := write_eq_ok_iff.mp written
  exact hasHalf_toText whole

theorem hasHalf_display {v : Value} {text : String} (whole : v.holdsHalf = false)
    (shown : v.display = .ok text) : hasHalf text = false := by
  cases v with
  | null =>
      cases shown
      decide
  | bool b =>
      cases shown
      cases b <;> decide
  | float x =>
      unfold display at shown
      dsimp only at shown
      split at shown
      · cases shown
        exact hasHalf_repr_int _
      · cases shown
        exact x.hasHalf_toText
  | date d =>
      cases shown
      exact d.hasHalf_iso
  | moment t =>
      cases shown
      exact t.hasHalf_textWith (by decide)
  | _ => exact hasHalf_write whole shown

end Value

theorem hasHalf_displayDate (v : Value) : hasHalf (displayDate v) = false := by
  unfold displayDate
  split
  · exact CivilDate.hasHalf_slashed _
  · decide

namespace Value

theorem itemsHoldHalf_eq_false_iff {items : List Value} :
    itemsHoldHalf items = false ↔ ∀ v ∈ items, v.holdsHalf = false := by
  induction items with
  | nil => simp [itemsHoldHalf]
  | cons v rest ih => simp [itemsHoldHalf, ih]

theorem entriesHoldHalf_eq_false_iff {entries : List (String × Value)} :
    entriesHoldHalf entries = false ↔
      ∀ entry ∈ entries, Text.hasHalf entry.1 = false ∧ entry.2.holdsHalf = false := by
  induction entries with
  | nil => simp [entriesHoldHalf]
  | cons entry rest ih => simp [entriesHoldHalf, ih, and_assoc]

theorem entriesHoldHalf_append (entries others : List (String × Value)) :
    entriesHoldHalf (entries ++ others) =
      (entriesHoldHalf entries || entriesHoldHalf others) := by
  induction entries with
  | nil => rfl
  | cons entry rest ih => simp [entriesHoldHalf, ih, Bool.or_assoc]

variable {v : Value}

theorem holdsHalf_get? {entries : List (String × Value)} (whole : entriesHoldHalf entries = false)
    {name : String} (found : get? entries name = some v) : v.holdsHalf = false :=
  (entriesHoldHalf_eq_false_iff.mp whole _ (mem_of_get? found)).2

theorem holdsHalf_part (whole : v.holdsHalf = false) (key : String) :
    (v.part key).holdsHalf = false := by
  rcases v.part_cases key with missing | ⟨entries, rfl, inside⟩
  · rw [missing]
    rfl
  · rw [holdsHalf] at whole
    exact (entriesHoldHalf_eq_false_iff.mp whole _ inside).2

theorem holdsHalf_items (whole : v.holdsHalf = false) :
    ∀ item ∈ v.items, item.holdsHalf = false := by
  cases v with
  | list items | tuple items =>
      rw [holdsHalf] at whole
      exact itemsHoldHalf_eq_false_iff.mp whole
  | _ => exact fun _ member => absurd member List.not_mem_nil

theorem entriesHoldHalf_put {entries : List (String × Value)}
    (whole : entriesHoldHalf entries = false) {name : String} (named : Text.hasHalf name = false)
    (new : v.holdsHalf = false) : entriesHoldHalf (put name v entries) = false := by
  refine entriesHoldHalf_eq_false_iff.mpr fun entry member => ?_
  rcases mem_of_mem_put member with rfl | inside
  · exact ⟨named, new⟩
  · exact entriesHoldHalf_eq_false_iff.mp whole entry inside

end Value

end CourseAudit
