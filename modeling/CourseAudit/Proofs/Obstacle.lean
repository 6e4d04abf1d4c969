import CourseAudit.Proofs.Fault
import CourseAudit.Value.Coercion
import Mathlib.Data.Nat.Digits.Defs

/-!
Which values can be written. Nothing keeps a value from being written exactly when no integer in it
is too long and no value lies too deep, and what can be written can be shown and compared as text.
-/
namespace CourseAudit.Value

theorem isLong_eq_false_iff {i : Int} : isLong i = false ↔ i.natAbs < 10 ^ writtenDigits := by
  rw [isLong, decide_eq_false_iff_not, not_lt]
  exact Nat.length_toDigits_le_iff (by decide) (by decide)

/-- Integers of few digits are not long. -/
theorem isLong_of_lt {i : Int} {digits : Nat} (few : digits ≤ writtenDigits)
    (below : i.natAbs < 10 ^ digits) : isLong i = false :=
  isLong_eq_false_iff.mpr (below.trans_le (Nat.pow_le_pow_right (by decide) few))

mutual

/-- Whether a value is a long integer or holds one anywhere. -/
def holdsLong : Value → Bool
  | .int i => isLong i
  | .list items | .tuple items => itemsHoldLong items
  | .dict entries => entriesHoldLong entries
  | _ => false

def itemsHoldLong : List Value → Bool
  | [] => false
  | v :: rest => v.holdsLong || itemsHoldLong rest

def entriesHoldLong : List (String × Value) → Bool
  | [] => false
  | (_, v) :: rest => v.holdsLong || entriesHoldLong rest

end

theorem itemsHoldLong_eq_false_iff {items : List Value} :
    itemsHoldLong items = false ↔ ∀ v ∈ items, v.holdsLong = false := by
  induction items with
  | nil => simp [itemsHoldLong]
  | cons v rest ih => simp [itemsHoldLong, ih]

theorem entriesHoldLong_eq_false_iff {entries : List (String × Value)} :
    entriesHoldLong entries = false ↔ ∀ entry ∈ entries, entry.2.holdsLong = false := by
  induction entries with
  | nil => simp [entriesHoldLong]
  | cons entry rest ih => simp [entriesHoldLong, ih]

mutual

theorem obstacle?_eq_none_iff : ∀ (v : Value) (room : Nat),
    v.obstacle? room = none ↔ v.levels ≤ room ∧ v.holdsLong = false
  | .int i, room => by
      by_cases none : room = 0 <;> simp [obstacle?, levels, holdsLong, none]
      omega
  | .list items, room | .tuple items, room => by
      have inside := obstacleOfItems?_eq_none_iff items (room - 1)
      by_cases none : room = 0
      · simp [obstacle?, levels, none]
      · simp only [obstacle?, levels, holdsLong, if_neg none, inside]
        exact and_congr_left fun _ => by omega
  | .dict entries, room => by
      have inside := obstacleOfEntries?_eq_none_iff entries (room - 1)
      by_cases none : room = 0
      · simp [obstacle?, levels, none]
      · simp only [obstacle?, levels, holdsLong, if_neg none, inside]
        exact and_congr_left fun _ => by omega
  | .null, room | .bool _, room | .float _, room | .text _, room | .date _, room
  | .moment _, room | .choice _, room => by
      by_cases none : room = 0 <;> simp [obstacle?, levels, holdsLong, none]
      omega

theorem obstacleOfItems?_eq_none_iff : ∀ (items : List Value) (room : Nat),
    obstacleOfItems? room items = none ↔
      levelsOfItems items ≤ room ∧ itemsHoldLong items = false
  | [], room => by simp [obstacleOfItems?, levelsOfItems, itemsHoldLong]
  | v :: rest, room => by
      rw [obstacleOfItems?, Option.or_eq_none_iff, obstacle?_eq_none_iff v room,
        obstacleOfItems?_eq_none_iff rest room, levelsOfItems, itemsHoldLong, Nat.max_le,
        Bool.or_eq_false_iff, and_and_and_comm]

theorem obstacleOfEntries?_eq_none_iff : ∀ (entries : List (String × Value)) (room : Nat),
    obstacleOfEntries? room entries = none ↔
      levelsOfEntries entries ≤ room ∧ entriesHoldLong entries = false
  | [], room => by simp [obstacleOfEntries?, levelsOfEntries, entriesHoldLong]
  | (_, v) :: rest, room => by
      rw [obstacleOfEntries?, Option.or_eq_none_iff, obstacle?_eq_none_iff v room,
        obstacleOfEntries?_eq_none_iff rest room, levelsOfEntries, entriesHoldLong, Nat.max_le,
        Bool.or_eq_false_iff, and_and_and_comm]

end

/-- A value is written by its text, or not at all. -/
theorem write_eq_ok_iff {v : Value} {text : String} :
    v.write = .ok text ↔ v.obstacle? writtenLevels = none ∧ v.toText = text := by
  unfold write
  cases v.obstacle? writtenLevels <;> simp

/-- A value that can be written. -/
def HasText (v : Value) : Prop := ∃ text, v.write = .ok text

theorem hasText_iff {v : Value} :
    v.HasText ↔ v.levels ≤ writtenLevels ∧ v.holdsLong = false := by
  rw [← obstacle?_eq_none_iff]
  exact ⟨fun ⟨_, written⟩ => (write_eq_ok_iff.mp written).1,
    fun free => ⟨_, write_eq_ok_iff.mpr ⟨free, rfl⟩⟩⟩

@[simp] theorem write_null : null.write = .ok "None" := rfl

@[simp] theorem write_bool (b : Bool) :
    (bool b).write = .ok (if b then "True" else "False") := rfl

@[simp] theorem write_float (x : Binary64) : (float x).write = .ok x.toText := rfl

@[simp] theorem write_text (s : String) : (text s).write = .ok s := rfl

@[simp] theorem write_choice (c : Choice) : (choice c).write = .ok c.constant := rfl

theorem write_int {i : Int} (short : isLong i = false) : (int i).write = .ok (toString i) := by
  refine write_eq_ok_iff.mpr ⟨?_, rfl⟩
  rw [obstacle?, short]
  rfl

theorem comparable_total {v : Value} (h : v.HasText) : ∃ text, v.comparable = .ok text := by
  obtain ⟨text, written⟩ := h
  cases v with
  | null | bool => exact ⟨_, rfl⟩
  | float x =>
      unfold comparable
      dsimp only
      cases x.toInt? <;> exact ⟨_, rfl⟩
  | _ => exact ⟨_, congrArg (Except.map Text.lower) written⟩

/-- Only what can be written is compared as text. -/
theorem hasText_of_comparable {v : Value} {text : String} (h : v.comparable = .ok text) :
    v.HasText := by
  cases v with
  | null | bool | float | text | choice | date | moment => exact ⟨_, rfl⟩
  | _ =>
      obtain ⟨written, found, -⟩ := map_eq_ok_iff.mp h
      exact ⟨written, found⟩

/-- What can be written is what can be shown. -/
theorem exists_display_iff {v : Value} : (∃ text, v.display = .ok text) ↔ v.HasText := by
  cases v with
  | null | bool | date | moment => exact ⟨fun _ => ⟨_, rfl⟩, fun _ => ⟨_, rfl⟩⟩
  | float x =>
      refine ⟨fun _ => ⟨_, rfl⟩, fun _ => ?_⟩
      unfold display
      dsimp only
      cases x.toInt? <;> exact ⟨_, rfl⟩
  | _ => exact Iff.rfl

end CourseAudit.Value
