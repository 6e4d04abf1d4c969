import CourseAudit.Proofs.Decoding

/-!
Reading twice is reading once. A value that has the form of a payload, with every field under its
first key, is read as itself, so what has been read can be answered and sent in again.
-/
namespace CourseAudit

/-- A member is found under its name when names occur once. -/
theorem find?_of_nodup {α : Type} {name : α → String} {as : List α} (once : (as.map name).Nodup)
    {a : α} (member : a ∈ as) : as.find? (name · == name a) = some a := by
  induction as with
  | nil => exact absurd member List.not_mem_nil
  | cons first rest ih =>
      rw [List.map_cons, List.nodup_cons] at once
      rcases List.mem_cons.mp member with rfl | later
      · simp only [List.find?_cons, beq_self_eq_true]
      · have other : name first ≠ name a := fun same =>
          once.1 (same ▸ List.mem_map_of_mem later)
        simp only [List.find?_cons, beq_false_of_ne other, ih once.2 later]

theorem Value.get?_of_nodup {entries : List (String × Value)} (once : (entries.map (·.1)).Nodup)
    {entry : String × Value} (member : entry ∈ entries) :
    get? entries entry.1 = some entry.2 := by
  simp only [get?, find?_of_nodup once member, Option.map_some]

namespace Payload

/-- The first keys of fields. -/
def Fields.keys : Fields → List String
  | .nil => []
  | .cons key _ _ _ rest => key :: rest.keys

mutual

/-- Forms whose fields and choices are told apart by their names, which hold no halves. -/
def Form.Distinct : Form → Prop
  | .member choices =>
      (choices.map (·.label)).Nodup ∧ ∀ c ∈ choices, Text.hasHalf c.label = false
  | .oneOf names => ∀ s ∈ names, Text.hasHalf s = false
  | .optional form | .list form => form.Distinct
  | .record fields => fields.keys.Nodup ∧ fields.Distinct
  | _ => True

def Fields.Distinct : Fields → Prop
  | .nil => True
  | .cons _ _ _ form rest => form.Distinct ∧ rest.Distinct

end

theorem Fields.Fit.keys_eq : ∀ {fields : Fields} {entries : List (String × Value)},
    fields.Fit entries → entries.map (·.1) = fields.keys
  | .nil, _, h => by
      cases h
      rfl
  | .cons key _ _ _ _, _, h => by
      obtain ⟨v, others, rfl, -, fit⟩ := h
      exact congrArg (key :: ·) fit.keys_eq

theorem collect_ok (start : Nat) (vs : List Value) : collect start (vs.map .ok) = .ok vs := by
  induction vs generalizing start with
  | nil => rfl
  | cons v vs ih => simp only [List.map_cons, collect, ih]

theorem readBounded_of_bounds {low high : Option Int} {i : Int}
    (least : ∀ bound, low = some bound → bound ≤ i)
    (most : ∀ bound, high = some bound → i ≤ bound) : readBounded low high (.int i) = .ok i := by
  have notAbove : high.any (· < i) = false := by
    cases high with
    | none => rfl
    | some bound => simpa using most bound rfl
  have notBelow : low.any (i < ·) = false := by
    cases low with
    | none => rfl
    | some bound => simpa using least bound rfl
  simp only [readBounded, readInteger, ok_bind, notAbove, notBelow, Bool.false_eq_true, if_false]

/-- A text without halves is read for what it stands for. -/
theorem whole_text {s : String} {v : Value} (text : v.asText? = some s)
    (unbroken : Text.hasHalf s = false) (reading : Reading) : whole v reading = reading := by
  simp only [whole, text, Option.any_some, unbroken, Bool.false_eq_true, if_false]

mutual

theorem Form.read_of_fits : ∀ (form : Form), form.Distinct → ∀ {v : Value},
    form.Fits v → form.read v = .ok v
  | .anything, _, _, _ => rfl
  | .text, _, _, h => by
      obtain ⟨s, rfl⟩ := h
      rfl
  | .number, _, _, h => by
      obtain ⟨x, rfl⟩ := h
      rfl
  | .flag, _, _, h => by
      obtain ⟨b, rfl⟩ := h
      rfl
  | .day, _, _, h => by
      obtain ⟨d, rfl⟩ := h
      rfl
  | .integer low high, _, _, h => by
      obtain ⟨i, rfl, least, most⟩ := h
      exact plainly_eq_ok_iff.mpr ⟨i, readBounded_of_bounds least most, rfl⟩
  | .identifier, _, _, h => by
      rcases h with ⟨i, rfl⟩ | ⟨s, rfl⟩
      · rfl
      · rfl
  | .member choices, distinct, _, h => by
      obtain ⟨c, member, rfl⟩ := h
      have found := find?_of_nodup distinct.1 member
      have text : (Value.choice c).asText? = some c.label := rfl
      simp only [Form.read, whole_text text (distinct.2 c member), text, Option.bind_some, found]
  | .oneOf names, distinct, _, h => by
      obtain ⟨s, member, rfl⟩ := h
      have text : (Value.text s).asText? = some s := rfl
      have listed : names.contains s = true := List.contains_iff_mem.mpr member
      simp only [Form.read, whole_text text (distinct s member), text, listed, if_true]
  | .optional form, distinct, v, h => by
      change (if v.isNull then .ok .null else form.read v) = .ok v
      rcases h with rfl | fits
      · rfl
      · split
        · next null =>
            cases v with
            | null => rfl
            | _ => cases null
        · exact form.read_of_fits distinct fits
  | .list form, distinct, _, h => by
      obtain ⟨items, rfl, fit⟩ := h
      have each : items.map form.read = items.map .ok :=
        List.map_congr_left fun item member => form.read_of_fits distinct (fit item member)
      simp only [Form.read, each, collect_ok]
      rfl
  | .table, _, _, h => by
      obtain ⟨entries, rfl⟩ := h
      rfl
  | .record fields, distinct, _, h => by
      obtain ⟨entries, rfl, fit⟩ := h
      have once : (entries.map (·.1)).Nodup := fit.keys_eq ▸ distinct.1
      have read := fields.read_of_fit distinct.2 fit fun _ member =>
        Value.get?_of_nodup once member
      simp only [Form.read, read]
      rfl

/-- Fields look for their keys among all entries of the record, of which theirs are the last. -/
theorem Fields.read_of_fit : ∀ (fields : Fields), fields.Distinct →
    ∀ {all entries : List (String × Value)}, fields.Fit entries →
      (∀ entry ∈ entries, Value.get? all entry.1 = some entry.2) → fields.read all = .ok entries
  | .nil, _, _, _, h, _ => by
      cases h
      rfl
  | .cons key otherKeys fallback form rest, distinct, all, entries, h, found => by
      obtain ⟨v, others, rfl, fits, fit⟩ := h
      have own : entryOf all (key :: otherKeys) = some (key, v) := by
        have there : Value.get? all key = some v := found (key, v) List.mem_cons_self
        simp only [entryOf, List.findSome?_cons, there, Option.map_some]
      have first := form.read_of_fits distinct.1 fits
      have later := rest.read_of_fit distinct.2 fit fun entry member =>
        found entry (List.mem_cons_of_mem _ member)
      simp only [Fields.read, own, first, later, joinField]

end

/-- Reading again what a form has been read as changes nothing. -/
theorem Form.read_read {form : Form} (defaults : form.DefaultsFit) (distinct : form.Distinct)
    {v w : Value} (h : form.read v = .ok w) : form.read w = .ok w :=
  form.read_of_fits distinct (form.fits_of_read defaults h)

theorem condition_distinct : condition.Distinct := by
  simp [condition, conditionFields, subConditionFields, Form.Distinct, Fields.Distinct,
    Fields.keys]

theorem recordFields_distinct : (Form.record recordFields).Distinct := by
  have conditions : condition.Distinct := condition_distinct
  simp [recordFields, Form.Distinct, Fields.Distinct, Fields.keys, conditions]

theorem recordFields_defaultsFit : recordFields.DefaultsFit := by
  have conditions : condition.DefaultsFit := condition_defaultsFit
  simp [recordFields, Fields.DefaultsFit, Form.DefaultsFit, Form.Fits, conditions]

end Payload
end CourseAudit
