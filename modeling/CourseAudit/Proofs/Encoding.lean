import CourseAudit.Proofs.Readable
import CourseAudit.Proofs.Rereading
import CourseAudit.Proofs.Service

/-!
Conditions as they are answered and sent in again. The payload of a condition that has been read is
read as that condition, is written without loss, and lies hardly deeper than the values in it.
-/
namespace CourseAudit
open Payload

namespace Value

mutual

/-- Whether a value can be written in the interchange format and read back: numbers are finite, and
the names of a dict occur once. -/
def isJson : Value → Bool
  | .null | .bool _ | .int _ | .text _ => true
  | .float x => x.isFinite
  | .list items => areJson items
  | .dict entries => decide (entries.map (·.1)).Nodup && entriesAreJson entries
  | _ => false

def areJson : List Value → Bool
  | [] => true
  | v :: vs => v.isJson && areJson vs

def entriesAreJson : List (String × Value) → Bool
  | [] => true
  | (_, v) :: rest => v.isJson && entriesAreJson rest

end

mutual

theorem finite_of_isJson : ∀ {v : Value}, v.isJson = true → v.finite = v
  | .null, _ | .bool _, _ | .int _, _ | .text _, _ => rfl
  | .float _, h => if_pos h
  | .list _, h => congrArg Value.list (finiteItems_of_areJson h)
  | .dict _, h => congrArg Value.dict (finiteEntries_of_areJson (Bool.and_eq_true_iff.mp h).2)

theorem finiteItems_of_areJson : ∀ {items : List Value}, areJson items = true →
    finiteItems items = items
  | [], _ => rfl
  | v :: vs, h => by
      rw [areJson, Bool.and_eq_true] at h
      rw [finiteItems, finite_of_isJson h.1, finiteItems_of_areJson h.2]

theorem finiteEntries_of_areJson : ∀ {entries : List (String × Value)},
    entriesAreJson entries = true → finiteEntries entries = entries
  | [], _ => rfl
  | (name, v) :: rest, h => by
      rw [entriesAreJson, Bool.and_eq_true] at h
      rw [finiteEntries, finite_of_isJson h.1, finiteEntries_of_areJson h.2]

end

mutual

theorem same_of_isJson : ∀ {v : Value}, v.isJson = true → v.same v = true
  | .null, _ => rfl
  | .bool b, _ => by simp [same, sameScalar, asInt?]
  | .int i, _ => by simp [same, sameScalar, asInt?]
  | .text s, _ => by simp [same, sameScalar, asInt?, asText?]
  | .float x, _ => by simp [same, sameScalar, Binary64.same]
  | .list _, h => sameList_of_areJson h
  | .dict entries, h => by
      rw [isJson, Bool.and_eq_true, decide_eq_true_iff] at h
      rw [same, beq_self_eq_true, Bool.true_and]
      exact sameEntries_of_areJson h.2 fun _ member => get?_of_nodup h.1 member

theorem sameList_of_areJson : ∀ {items : List Value}, areJson items = true →
    sameList items items = true
  | [], _ => rfl
  | v :: vs, h => by
      rw [areJson, Bool.and_eq_true] at h
      rw [sameList, same_of_isJson h.1, sameList_of_areJson h.2, Bool.and_self]

theorem sameEntries_of_areJson : ∀ {entries all : List (String × Value)},
    entriesAreJson entries = true →
      (∀ entry ∈ entries, get? all entry.1 = some entry.2) → sameEntries entries all = true
  | [], _, _, _ => rfl
  | (name, v) :: rest, all, h, found => by
      rw [entriesAreJson, Bool.and_eq_true] at h
      have own : get? all name = some v := found (name, v) List.mem_cons_self
      have later := sameEntries_of_areJson h.2 fun entry member =>
        found entry (List.mem_cons_of_mem _ member)
      simp only [sameEntries, own, same_of_isJson h.1, later, Bool.and_self]

end

theorem levels_pos (v : Value) : 1 ≤ v.levels := by
  cases v with
  | list | tuple | dict => exact Nat.succ_le_succ (Nat.zero_le _)
  | _ => exact Nat.le_refl 1

theorem levelsOfItems_le {items : List Value} {n : Nat} (h : ∀ v ∈ items, v.levels ≤ n) :
    levelsOfItems items ≤ n := by
  induction items with
  | nil => exact Nat.zero_le n
  | cons v rest ih =>
      exact Nat.max_le.mpr ⟨h v List.mem_cons_self,
        ih fun w member => h w (List.mem_cons_of_mem _ member)⟩

theorem levelsOfEntries_le {entries : List (String × Value)} {n : Nat}
    (h : ∀ entry ∈ entries, entry.2.levels ≤ n) : levelsOfEntries entries ≤ n := by
  induction entries with
  | nil => exact Nat.zero_le n
  | cons entry rest ih =>
      exact Nat.max_le.mpr ⟨h entry List.mem_cons_self,
        ih fun other member => h other (List.mem_cons_of_mem _ member)⟩

end Value

theorem Slots.records_ofList {R : Type} (records : List R) :
    (ofList records).records = records := by
  have own := records_own (records.map fun record => (record, ([] : List (String × Value))))
  rw [List.map_map, List.map_map] at own
  exact own.trans (List.map_id records)

theorem sameAll_self {α : Type} {same : α → α → Bool} {as : List α}
    (h : ∀ a ∈ as, same a a = true) : sameAll same as as = true := by
  induction as with
  | nil => rfl
  | cons a as ih =>
      have rest := ih fun b member => h b (List.mem_cons_of_mem _ member)
      simp only [sameAll, h a List.mem_cons_self, rest, Bool.and_self]

/-- What an id may be: an integer, a text or null. -/
theorem isJson_of_identifier {v : Value} (h : (Form.optional .identifier).Fits v) :
    v.isJson = true ∧ v.levels = 1 := by
  rcases h with rfl | ⟨i, rfl⟩ | ⟨s, rfl⟩ <;> exact ⟨rfl, rfl⟩

theorem isJson_of_text {v : Value} (h : Form.text.Fits v) : v.isJson = true ∧ v.levels = 1 := by
  obtain ⟨s, rfl⟩ := h
  exact ⟨rfl, rfl⟩

theorem isJson_of_optionalText {v : Value} (h : (Form.optional .text).Fits v) :
    v.isJson = true ∧ v.levels = 1 := by
  rcases h with rfl | text
  · exact ⟨rfl, rfl⟩
  · exact isJson_of_text text

namespace SubCondition

/-- Sub-conditions as payloads give them. -/
structure Held (s : SubCondition) : Prop where
  id : (Form.optional .identifier).Fits s.id
  property : Form.text.Fits s.property
  operator : Form.text.Fits s.operator

theorem held_ofPayload {v : Value} (h : (Form.record subConditionFields).Fits v) :
    (ofPayload v).Held where
  id := h.part "id" rfl
  property := h.part "property" rfl
  operator := h.part "operator" rfl

theorem ofPayload_payload (s : SubCondition) : ofPayload s.payload = s := rfl

theorem holdsLong_payload {v : Value} (short : v.holdsLong = false) :
    (ofPayload v).payload.holdsLong = false := by
  have part := Value.holdsLong_part short
  simp only [payload, ofPayload, Value.holdsLong, Value.entriesHoldLong, part, Bool.or_self]

variable {s : SubCondition} (h : s.Held)

include h

theorem Held.fits_payload : (Form.record subConditionFields).Fits s.payload :=
  ⟨_, rfl, _, _, rfl, h.id, _, _, rfl, h.property, _, _, rfl, h.operator, _, _, rfl, trivial, rfl⟩

theorem Held.finite_payload (json : s.value.isJson = true) : s.payload.finite = s.payload := by
  simp only [payload, Value.finite, Value.finiteEntries,
    Value.finite_of_isJson (isJson_of_identifier h.id).1,
    Value.finite_of_isJson (isJson_of_text h.property).1,
    Value.finite_of_isJson (isJson_of_text h.operator).1, Value.finite_of_isJson json]

theorem Held.same_self (json : s.value.isJson = true) : s.same s = true := by
  simp only [same, Value.same_of_isJson (isJson_of_identifier h.id).1,
    Value.same_of_isJson (isJson_of_text h.property).1,
    Value.same_of_isJson (isJson_of_text h.operator).1, Value.same_of_isJson json, Bool.and_self]

theorem Held.levels_payload {n : Nat} (positive : 1 ≤ n) (within : s.value.levels ≤ n) :
    s.payload.levels ≤ n + 1 := by
  refine Nat.succ_le_succ (Value.levelsOfEntries_le fun entry member => ?_)
  simp only [List.mem_cons, List.not_mem_nil, or_false] at member
  have id := (isJson_of_identifier h.id).2
  have property := (isJson_of_text h.property).2
  have operator := (isJson_of_text h.operator).2
  rcases member with rfl | rfl | rfl | rfl <;> dsimp only <;> omega

end SubCondition

theorem GroupType.ofText?_label (g : GroupType) : ofText? g.label = some g := by
  cases g <;> decide +kernel

namespace Condition

/-- The group type that a payload writes. -/
def writtenGroup (c : Condition) : Value :=
  match c.groupType.asText? with
  | some s => .text s
  | none => c.groupType

theorem payload_eq (c : Condition) : c.payload = .dict [("id", c.id), ("groupType", c.writtenGroup),
    ("source", c.source), ("property", c.property), ("operator", c.operator), ("value", c.value),
    ("subConditions", .list (c.subConditions.records.map SubCondition.payload))] := rfl

/-- Conditions as payloads give them. -/
structure Held (c : Condition) : Prop where
  id : (Form.optional .identifier).Fits c.id
  groupType : c.groupType = .null ∨ ∃ g : GroupType, c.groupType = .choice (.group g)
  source : Form.text.Fits c.source
  property : Form.text.Fits c.property
  operator : Form.text.Fits c.operator
  subConditions : ∃ subs, c.subConditions = .ofList subs ∧ ∀ s ∈ subs, s.Held
  short : c.payload.holdsLong = false

/-- A condition whose values can be written and read back. -/
def IsJson (c : Condition) : Prop :=
  c.value.isJson = true ∧ ∀ s ∈ c.subConditions.records, s.value.isJson = true

theorem holdsLong_writtenGroup (v : Value) : (ofPayload v).writtenGroup.holdsLong = false := by
  have parsed : (ofPayload v).groupType = GroupType.parsed (v.part "groupType") := rfl
  unfold writtenGroup
  rw [parsed]
  rcases GroupType.parsed_cases (v.part "groupType") with null | ⟨g, group⟩
  · rw [null]
    rfl
  · rw [group]
    rfl

/-- The payload of a condition holds no long integer unless it came with one. -/
theorem holdsLong_payload {v : Value} (short : v.holdsLong = false) :
    (ofPayload v).payload.holdsLong = false := by
  have part := Value.holdsLong_part short
  have subs : Value.itemsHoldLong ((ofPayload v).subConditions.records.map SubCondition.payload) =
      false := by
    refine Value.itemsHoldLong_eq_false_iff.mpr fun item member => ?_
    obtain ⟨s, inside, rfl⟩ := List.mem_map.mp member
    rw [ofPayload, Slots.records_ofList] at inside
    obtain ⟨item, listed, rfl⟩ := List.mem_map.mp inside
    exact SubCondition.holdsLong_payload (Value.holdsLong_items (part _) item listed)
  rw [payload_eq]
  refine Value.entriesHoldLong_eq_false_iff.mpr fun entry member => ?_
  simp only [List.mem_cons, List.not_mem_nil, or_false] at member
  rcases member with rfl | rfl | rfl | rfl | rfl | rfl | rfl
  · exact part "id"
  · exact holdsLong_writtenGroup v
  · exact part "source"
  · exact part "property"
  · exact part "operator"
  · exact part "value"
  · exact subs

theorem held_ofPayload {v : Value} (h : (Form.record conditionFields).Fits v)
    (short : v.holdsLong = false) : (ofPayload v).Held where
  id := h.part "id" rfl
  groupType := GroupType.parsed_cases (v.part "groupType")
  source := h.part "source" rfl
  property := h.part "property" rfl
  operator := h.part "operator" rfl
  subConditions := by
    refine ⟨_, rfl, fun s member => ?_⟩
    obtain ⟨item, inside, rfl⟩ := List.mem_map.mp member
    exact SubCondition.held_ofPayload
      (Form.Fits.items (.inr (h.part "subConditions" rfl)) item inside)
  short := holdsLong_payload short

variable {c : Condition} (h : c.Held)

include h

/-- A group type is written by its label, and read from it. -/
theorem Held.writtenGroup : (Form.optional .text).Fits c.writtenGroup ∧
    GroupType.parsed c.writtenGroup = c.groupType ∧ c.groupType.same c.groupType = true := by
  unfold Condition.writtenGroup
  rcases h.groupType with null | ⟨g, group⟩
  · rw [null]
    exact ⟨.inl rfl, rfl, rfl⟩
  · rw [group]
    refine ⟨.inr ⟨g.label, rfl⟩, ?_, ?_⟩
    · change GroupType.parsed (.text g.label) = _
      simp only [GroupType.parsed, Value.asText?, Option.bind_some, GroupType.ofText?_label]
    · cases g <;> decide +kernel

theorem Held.records : ∀ s ∈ c.subConditions.records, s.Held := by
  obtain ⟨subs, listed, held⟩ := h.subConditions
  rw [listed, Slots.records_ofList]
  exact held

theorem Held.fits_payload : condition.Fits c.payload := by
  refine ⟨_, rfl, _, _, rfl, h.id, _, _, rfl, h.writtenGroup.1, _, _, rfl, h.source,
    _, _, rfl, h.property, _, _, rfl, h.operator, _, _, rfl, trivial,
    _, _, rfl, .inr ⟨_, rfl, fun item member => ?_⟩, rfl⟩
  obtain ⟨s, inside, rfl⟩ := List.mem_map.mp member
  exact (h.records s inside).fits_payload

theorem Held.ofPayload_payload : ofPayload c.payload = c := by
  obtain ⟨subs, listed, -⟩ := h.subConditions
  have read : (c.subConditions.records.map SubCondition.payload).map SubCondition.ofPayload =
      c.subConditions.records := by
    rw [List.map_map]
    exact List.map_id _
  have restored : Slots.ofList c.subConditions.records = c.subConditions := by
    rw [listed, Slots.records_ofList]
  have parts : ofPayload c.payload = { c with
      groupType := GroupType.parsed c.writtenGroup
      subConditions := .ofList ((c.subConditions.records.map SubCondition.payload).map
        SubCondition.ofPayload) } := rfl
  rw [parts, h.writtenGroup.2.1, read, restored]

/-- What the payload of a condition is read as. -/
theorem Held.read_payload : Condition.read c.payload = .ok c := by
  have reading : condition.read c.payload = .ok c.payload :=
    Form.read_of_fits condition condition_distinct h.fits_payload
  rw [Condition.read, reading]
  exact congrArg Except.ok h.ofPayload_payload

theorem Held.levels_payload {n : Nat} (within : c.value.levels ≤ n)
    (subs : ∀ s ∈ c.subConditions.records, s.value.levels ≤ n) : c.payload.levels ≤ n + 3 := by
  have positive : 1 ≤ n := Nat.le_trans c.value.levels_pos within
  have listed : Value.levelsOfItems (c.subConditions.records.map SubCondition.payload) ≤ n + 1 := by
    refine Value.levelsOfItems_le fun item member => ?_
    obtain ⟨s, inside, rfl⟩ := List.mem_map.mp member
    exact (h.records s inside).levels_payload positive (subs s inside)
  rw [payload_eq]
  refine Nat.succ_le_succ (Value.levelsOfEntries_le fun entry member => ?_)
  simp only [List.mem_cons, List.not_mem_nil, or_false] at member
  have id := (isJson_of_identifier h.id).2
  have group := (isJson_of_optionalText h.writtenGroup.1).2
  have source := (isJson_of_text h.source).2
  have property := (isJson_of_text h.property).2
  have operator := (isJson_of_text h.operator).2
  have subs : (Value.list (c.subConditions.records.map SubCondition.payload)).levels ≤ n + 2 :=
    Nat.succ_le_succ listed
  rcases member with rfl | rfl | rfl | rfl | rfl | rfl | rfl <;> dsimp only <;> omega

variable (json : c.IsJson)

include json

theorem Held.finite_payload : c.payload.finite = c.payload := by
  have subs : Value.finiteItems (c.subConditions.records.map SubCondition.payload) =
      c.subConditions.records.map SubCondition.payload := by
    rw [Value.finiteItems_eq_map, List.map_map]
    exact List.map_congr_left fun s member =>
      (h.records s member).finite_payload (json.2 s member)
  simp only [payload_eq, Value.finite, Value.finiteEntries, subs,
    Value.finite_of_isJson (isJson_of_identifier h.id).1,
    Value.finite_of_isJson (isJson_of_optionalText h.writtenGroup.1).1,
    Value.finite_of_isJson (isJson_of_text h.source).1,
    Value.finite_of_isJson (isJson_of_text h.property).1,
    Value.finite_of_isJson (isJson_of_text h.operator).1, Value.finite_of_isJson json.1]

theorem Held.same_self : c.same c = true := by
  have subs : c.subConditions.same SubCondition.same c.subConditions = true := by
    obtain ⟨subs, listed, -⟩ := h.subConditions
    have records := h.records
    have values := json.2
    rw [listed, Slots.records_ofList] at records values
    rw [listed]
    refine sameAll_self fun slot member => ?_
    obtain ⟨s, inside, rfl⟩ := List.mem_map.mp member
    exact (records s inside).same_self (values s inside)
  simp only [same, subs, h.writtenGroup.2.2, Value.same_of_isJson (isJson_of_identifier h.id).1,
    Value.same_of_isJson (isJson_of_text h.source).1,
    Value.same_of_isJson (isJson_of_text h.property).1,
    Value.same_of_isJson (isJson_of_text h.operator).1, Value.same_of_isJson json.1, Bool.and_self]

end Condition
end CourseAudit
