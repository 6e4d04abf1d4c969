import CourseAudit.Proofs.Decimal
import CourseAudit.Proofs.Decoding
import CourseAudit.Proofs.Entries
import CourseAudit.Proofs.Obstacle
import CourseAudit.Service.Request
import Mathlib.Data.List.Induction
import Mathlib.Data.List.TakeWhile

/-!
What comes in with a request can be written out again. An integer that is too long to be written is
not read either, neither from the interchange format nor by a form, so no value out of a request
holds one.
-/
namespace CourseAudit

namespace Value

variable {v : Value}

theorem holdsLong_get? {entries : List (String × Value)} {key : String}
    (short : entriesHoldLong entries = false) (found : get? entries key = some v) :
    v.holdsLong = false :=
  entriesHoldLong_eq_false_iff.mp short _ (mem_of_get? found)

theorem holdsLong_part (short : v.holdsLong = false) (key : String) :
    (v.part key).holdsLong = false := by
  rcases v.part_cases key with missing | ⟨entries, rfl, inside⟩
  · rw [missing]
    rfl
  · rw [holdsLong] at short
    exact entriesHoldLong_eq_false_iff.mp short _ inside

theorem holdsLong_items (short : v.holdsLong = false) :
    ∀ item ∈ v.items, item.holdsLong = false := by
  cases v with
  | list vs | tuple vs => exact itemsHoldLong_eq_false_iff.mp short
  | _ => exact fun _ none => absurd none List.not_mem_nil

end Value

section Digits

variable {digits : List Char}

/-- What stands for a digit, put together by tens. -/
theorem foldl_digits_lt {value : Char → Nat} (small : ∀ c ∈ digits, value c < 10) :
    digits.foldl (fun n c => 10 * n + value c) 0 < 10 ^ digits.length := by
  induction digits using List.reverseRecOn with
  | nil => exact Nat.one_pos
  | append_singleton digits c ih =>
      have before := ih fun d member => small d (List.mem_append_left _ member)
      have last := small c (List.mem_append_right _ List.mem_cons_self)
      rw [List.foldl_append, List.foldl_cons, List.foldl_nil, List.length_append,
        List.length_singleton, Nat.pow_succ]
      omega

end Digits

namespace Json

theorem natOf_lt {digits : List Char} (plain : ∀ c ∈ digits, c.isDigit = true) :
    natOf digits < 10 ^ digits.length := by
  refine foldl_digits_lt fun c member => ?_
  obtain ⟨-, most⟩ := toNat_of_isDigit (plain c member)
  omega

variable {cs rest : List Char} {v : Value}

/-- What a number is read as, given its digits before a point. -/
theorem holdsLong_of_digits {negative plainly : Bool} {whole left : List Char} {x : Binary64}
    (plain : ∀ c ∈ whole, c.isDigit = true)
    (h : (if whole.isEmpty then breakAt cs
      else if plainly then
        if digitLimit < whole.length then .error .longInteger
        else .ok (.int (if negative then -(natOf whole : Int) else natOf whole), left)
      else .ok (.float x, left)) = .ok (v, rest)) : v.holdsLong = false := by
  split at h
  · cases h
  · split at h
    · split at h
      · cases h
      · next few =>
          cases h
          refine Value.isLong_of_lt (Nat.not_lt.mp few) ?_
          cases negative with
          | true | false => simpa using natOf_lt plain
    · cases h
      rfl

theorem holdsLong_of_readNumber (h : readNumber cs = .ok (v, rest)) : v.holdsLong = false := by
  unfold readNumber at h
  refine holdsLong_of_digits ?_ h
  split
  · exact List.forall_mem_singleton.mpr rfl
  · exact fun c => List.mem_takeWhile_imp

theorem holdsLong_constants : ∀ constant ∈ constants, constant.2.holdsLong = false := by
  simp [constants, Value.holdsLong]

/-- Entries stay without a long integer when such a value is put among them. -/
theorem entriesHoldLong_put {name : String} {entries : List (String × Value)}
    (short : v.holdsLong = false) (others : Value.entriesHoldLong entries = false) :
    Value.entriesHoldLong (Value.put name v entries) = false := by
  refine Value.entriesHoldLong_eq_false_iff.mpr fun entry member => ?_
  rcases Value.mem_of_mem_put member with rfl | inside
  · exact short
  · exact Value.entriesHoldLong_eq_false_iff.mp others entry inside

mutual

theorem holdsLong_of_readValue : ∀ (levels fuel : Nat) {cs rest : List Char} {v : Value},
    readValue levels fuel cs = .ok (v, rest) → v.holdsLong = false
  | _, 0, _, _, _, h => by cases h
  | levels, fuel + 1, cs, rest, v, h => by
      unfold readValue at h
      split at h
      · obtain ⟨_, _, same⟩ := map_eq_ok_iff.mp h
        cases same
        rfl
      · split at h
        · cases h
        · split at h
          · cases h
            rfl
          · exact holdsLong_of_readEntries (levels - 1) fuel rfl h
      · split at h
        · cases h
        · split at h
          · cases h
            rfl
          · exact holdsLong_of_readItems (levels - 1) fuel rfl h
      · split at h
        · next found =>
            cases h
            exact holdsLong_constants _ (List.mem_of_find?_eq_some found)
        · exact holdsLong_of_readNumber h

theorem holdsLong_of_readItems : ∀ (levels fuel : Nat) {cs rest : List Char} {acc : List Value}
    {v : Value}, Value.itemsHoldLong acc = false → readItems levels acc fuel cs = .ok (v, rest) →
      v.holdsLong = false
  | _, 0, _, _, _, _, _, h => by cases h
  | levels, fuel + 1, cs, rest, acc, v, short, h => by
      unfold readItems at h
      obtain ⟨⟨item, left⟩, read, h⟩ := bind_eq_ok_iff.mp h
      have listed : Value.itemsHoldLong (item :: acc) = false := by
        rw [Value.itemsHoldLong, holdsLong_of_readValue levels fuel read, short]
        rfl
      dsimp only at h
      split at h
      · cases h
        refine Value.itemsHoldLong_eq_false_iff.mpr fun item member => ?_
        exact Value.itemsHoldLong_eq_false_iff.mp listed item (List.mem_reverse.mp member)
      · exact holdsLong_of_readItems levels fuel listed h
      · cases h

theorem holdsLong_of_readEntries : ∀ (levels fuel : Nat) {cs rest : List Char}
    {acc : List (String × Value)} {v : Value}, Value.entriesHoldLong acc = false →
      readEntries levels acc fuel cs = .ok (v, rest) → v.holdsLong = false
  | _, 0, _, _, _, _, _, h => by cases h
  | levels, fuel + 1, cs, rest, acc, v, short, h => by
      unfold readEntries at h
      split at h
      · obtain ⟨⟨name, left⟩, -, h⟩ := bind_eq_ok_iff.mp h
        dsimp only at h
        split at h
        · obtain ⟨⟨part, after⟩, read, h⟩ := bind_eq_ok_iff.mp h
          have listed := @entriesHoldLong_put _ name _
            (holdsLong_of_readValue levels fuel read) short
          dsimp only at h
          split at h
          · cases h
            exact listed
          · exact holdsLong_of_readEntries levels fuel listed h
          · cases h
        · cases h
      · cases h

end

/-- No text of the interchange format is read as a value with a long integer. -/
theorem holdsLong_of_read {levels : Nat} (h : read levels cs = .ok v) : v.holdsLong = false := by
  unfold read at h
  dsimp only at h
  split at h
  · next read =>
      cases h
      obtain ⟨⟨found, left⟩, began, ended⟩ := bind_eq_ok_iff.mp read
      dsimp only at ended
      split at ended
      · cases ended
        exact holdsLong_of_readValue _ _ began
      · cases ended
  · cases h
  · cases h
  · cases h

end Json

/-- The content of a request holds no long integer. -/
theorem Request.holdsLong_value {r : Request} {v : Value} (h : r.value = .ok v) :
    v.holdsLong = false := by
  unfold Request.value at h
  dsimp only at h
  split at h
  · cases h
  · split at h
    · cases h
    · split at h
      · cases h
      · next free =>
          cases h
          rw [Bool.not_eq_true, Option.isSome_eq_false_iff, Option.isNone_iff_eq_none] at free
          exact (Value.obstacle?_eq_none_iff _ _).mp free |>.2
  · split at h
    · cases h
    · split at h
      · cases h
      · split at h
        · next read =>
            cases h
            obtain ⟨cs, -, read⟩ := Option.map_eq_some_iff.mp read
            exact Json.holdsLong_of_read read
        · cases h
        · cases h
        · cases h

namespace Payload

variable {v w : Value} {i : Int}

/-- What a row of digits is read as, given a sign that counts as a character. -/
theorem isLong_of_digits {negative broken longer : Bool} {sign : Nat} {digits : List Char}
    (plain : ∀ c ∈ digits, c.isDigit = true)
    (h : (if broken then .error .integerText
      else if numeralLimit < sign + digits.length then .error .integerSize
      else if longer then .error .integerText
      else .ok (if negative then -(Text.digitsValue digits : Int)
        else Text.digitsValue digits)) = (.ok i : Except IssueKind Int)) :
    Value.isLong i = false := by
  have below : Text.digitsValue digits < 10 ^ digits.length := by
    refine foldl_digits_lt fun c member => ?_
    obtain ⟨-, most⟩ := toNat_of_isDigit (plain c member)
    rw [Text.digitValue?_of_isDigit (plain c member), Option.getD_some]
    omega
  split at h
  · cases h
  · split at h
    · cases h
    · next few =>
        split at h
        · cases h
        · cases h
          refine Value.isLong_of_lt ((Nat.le_add_left _ sign).trans (Nat.not_lt.mp few)) ?_
          cases negative with
          | true | false => simpa using below

theorem isLong_of_readIntegerText {s : String} (h : readIntegerText s = .ok i) :
    Value.isLong i = false := by
  unfold readIntegerText at h
  dsimp only at h
  split at h
  · cases h
  · unfold ofDigits at h
    exact isLong_of_digits (fun c => List.mem_takeWhile_imp) h

/-- An integer is not long unless it has been given as one. -/
theorem isLong_of_readInteger (short : v.holdsLong = false) (h : readInteger v = .ok i) :
    Value.isLong i = false := by
  cases v with
  | int given =>
      cases h
      exact short
  | bool b =>
      cases h
      cases b <;> decide
  | float x =>
      unfold readInteger at h
      dsimp only at h
      split at h
      · cases h
      · split at h
        · split at h
          · next few =>
              cases h
              have digits : wordLimit ≤ 10 ^ 19 := by decide
              exact Value.isLong_of_lt (by decide) (few.trans_le digits)
          · cases h
        · cases h
  | text s => exact isLong_of_readIntegerText h
  | choice c => exact isLong_of_readIntegerText h
  | _ => cases h

mutual

/-- Every fallback of a form is without a long integer. -/
def Form.DefaultsShort : Form → Prop
  | .optional form => form.DefaultsShort
  | .list form => form.DefaultsShort
  | .record fields => fields.DefaultsShort
  | _ => True

def Fields.DefaultsShort : Fields → Prop
  | .nil => True
  | .cons _ _ fallback form rest =>
      (∀ v, fallback = some v → v.holdsLong = false) ∧ form.DefaultsShort ∧ rest.DefaultsShort

end

theorem readInteger_of_readBounded {low high : Option Int} (h : readBounded low high v = .ok i) :
    readInteger v = .ok i := by
  obtain ⟨j, read, h⟩ := bind_eq_ok_iff.mp h
  split at h
  · cases h
  · split at h
    · cases h
    · cases h
      exact read

theorem holdsLong_of_readIdentifier (short : v.holdsLong = false) (h : readIdentifier v = .ok w) :
    w.holdsLong = false := by
  unfold readIdentifier at h
  split at h
  · cases h
    exact short
  · cases h
    rfl
  · split at h
    · next read =>
        cases h
        exact isLong_of_readInteger short read
    · cases h

mutual

/-- No form makes a long integer. -/
theorem Form.holdsLong_of_read : ∀ (form : Form), form.DefaultsShort → ∀ {v w : Value},
    v.holdsLong = false → form.read v = .ok w → w.holdsLong = false
  | .anything, _, _, _, short, h => by
      cases h
      exact short
  | .text, _, _, _, _, h => by
      obtain ⟨s, -, rfl⟩ := plainly_eq_ok_iff.mp h
      rfl
  | .number, _, _, _, _, h | .flag, _, _, _, _, h | .day, _, _, _, _, h => by
      obtain ⟨_, -, rfl⟩ := plainly_eq_ok_iff.mp (whole_eq_ok h)
      rfl
  | .integer low high, _, _, _, short, h => by
      obtain ⟨i, bounded, rfl⟩ := plainly_eq_ok_iff.mp (whole_eq_ok h)
      exact isLong_of_readInteger short (readInteger_of_readBounded bounded)
  | .identifier, _, _, _, short, h => holdsLong_of_readIdentifier short h
  | .member choices, _, _, _, _, h => by
      have reading := whole_eq_ok h
      split at reading
      · cases reading
        rfl
      · cases reading
  | .oneOf names, _, _, _, _, h => by
      have reading := whole_eq_ok h
      split at reading
      · split at reading
        · cases reading
          rfl
        · cases reading
      · cases reading
  | .optional form, defaults, v, w, short, h => by
      change (if v.isNull then .ok .null else form.read v) = _ at h
      split at h
      · cases h
        rfl
      · exact form.holdsLong_of_read defaults short h
  | .list form, defaults, v, w, short, h => by
      have items : ∀ vs : List Value, Value.itemsHoldLong vs = false →
          (collect 0 (vs.map form.read)).map .list = .ok w → w.holdsLong = false := by
        intro vs short h
        obtain ⟨found, hf, rfl⟩ := map_eq_ok_iff.mp h
        refine Value.itemsHoldLong_eq_false_iff.mpr fun item member => ?_
        have listed : Except.ok item ∈ vs.map form.read := by
          rw [collect_eq_ok hf]
          exact List.mem_map_of_mem member
        obtain ⟨u, inside, hu⟩ := List.mem_map.mp listed
        exact form.holdsLong_of_read defaults
          (Value.itemsHoldLong_eq_false_iff.mp short u inside) hu
      cases v with
      | list vs => exact items vs short h
      | tuple vs => exact items vs short h
      | _ => cases h
  | .table, _, v, w, short, h => by
      cases v with
      | dict entries =>
          cases h
          exact short
      | _ => cases h
  | .record fields, defaults, v, w, short, h => by
      cases v with
      | dict entries =>
          obtain ⟨found, hf, rfl⟩ := map_eq_ok_iff.mp h
          exact fields.holdsLong_of_read defaults short hf
      | _ => cases h

theorem Fields.holdsLong_of_read : ∀ (fields : Fields), fields.DefaultsShort →
    ∀ {entries found : List (String × Value)}, Value.entriesHoldLong entries = false →
      fields.read entries = .ok found → Value.entriesHoldLong found = false
  | .nil, _, _, _, _, h => by
      cases h
      rfl
  | .cons key otherKeys fallback form rest, defaults, entries, found, short, h => by
      obtain ⟨v, others, hv, ho, rfl⟩ := joinField_eq_ok h
      have own : v.holdsLong = false := by
        split at hv
        · next found given =>
            split at hv
            · next read =>
                cases hv
                obtain ⟨name, -, there⟩ := List.exists_of_findSome?_eq_some given
                obtain ⟨part, got, same⟩ := Option.map_eq_some_iff.mp there
                cases same
                exact form.holdsLong_of_read defaults.2.1 (Value.holdsLong_get? short got) read
            · cases hv
        · cases hv
          exact defaults.1 _ rfl
        · cases hv
      rw [Value.entriesHoldLong, own, rest.holdsLong_of_read defaults.2.2 short ho]
      rfl

end

theorem recordFields_defaultsShort : recordFields.DefaultsShort := by
  simp [recordFields, condition, conditionFields, subConditionFields, Fields.DefaultsShort,
    Form.DefaultsShort, Value.holdsLong, Value.itemsHoldLong]

theorem contextFields_defaultsShort : contextFields.DefaultsShort := by
  have one : Value.isLong 1 = false := by decide
  simp [one, contextFields, task, taskFields, groupFields, conditionFields,
    subConditionFields, presentationFields, plainPresentation, resultTypes, sectionRecord,
    sectionFields, componentFields, items, itemFields, lmsCourseFields, courseFields, integer,
    Fields.DefaultsShort, Form.DefaultsShort, Value.holdsLong, Value.itemsHoldLong,
    Value.entriesHoldLong]

/-- What is read as an identifier can be written. -/
theorem hasText_of_identifier (fits : (Form.optional .identifier).Fits v)
    (short : v.holdsLong = false) : v.HasText := by
  rcases fits with rfl | ⟨i, rfl⟩ | ⟨s, rfl⟩
  · exact ⟨_, Value.write_null⟩
  · exact ⟨_, Value.write_int short⟩
  · exact ⟨_, Value.write_text s⟩

end Payload

/-- What has been read from a request holds no long integer. -/
theorem Request.holdsLong_read {r : Request} {fields : Payload.Fields} {v : Value}
    (defaults : fields.DefaultsShort) (h : r.read fields = .ok v) : v.holdsLong = false := by
  obtain ⟨content, given, h⟩ := bind_eq_ok_iff.mp h
  split at h
  · next reading =>
      cases h
      exact Payload.Form.holdsLong_of_read (.record fields) defaults (holdsLong_value given) reading
  · cases h

end CourseAudit
