import CourseAudit.Proofs.Fault
import CourseAudit.Record

/-!
Slots in which nothing but records stands. Going through such a list is going through its records,
and what was put under other names than those of their parts makes no difference.
-/
namespace CourseAudit

variable {R S : Type}

namespace Slot

/-- A slot with a record that has a property. -/
def Holds (P : R → Prop) : Slot R → Prop
  | .own record _ => P record
  | .other _ => False

theorem Holds.get {P : R → Prop} {slot : Slot R} (h : slot.Holds P) :
    ∃ record, slot.get = .ok record ∧ P record := by
  cases slot with
  | own record notes => exact ⟨record, rfl, h⟩
  | other v => exact False.elim h

theorem Holds.imp {P Q : R → Prop} {slot : Slot R} (h : slot.Holds P) (weaker : ∀ r, P r → Q r) :
    slot.Holds Q := by
  cases slot with
  | own record notes => exact weaker record h
  | other v => exact h

@[simp] theorem get_own (record : R) (notes : List (String × Value)) :
    (Slot.own record notes).get = .ok record := rfl

@[simp] theorem isNull_own (record : R) (notes : List (String × Value)) :
    (Slot.own record notes).isNull = false := rfl

end Slot

namespace Slots

/-- A list of records that all have a property, and of nothing else. -/
def Holds (P : R → Prop) : Slots R → Prop
  | .own members => ∀ slot ∈ members, slot.Holds P
  | .other _ => False

theorem holds_ofList {P : R → Prop} {records : List R} (h : ∀ r ∈ records, P r) :
    (ofList records).Holds P := by
  intro slot member
  obtain ⟨record, inside, rfl⟩ := List.mem_map.mp member
  exact h record inside

/-- A list that is gone through record by record. What holds nothing at all counts, too. -/
def OnlyRecords (slots : Slots R) : Prop :=
  ∃ entries : List (R × List (String × Value)),
    slots.members = .ok (entries.map fun e => .own e.1 e.2) ∧ slots.records = entries.map (·.1)

/-- Slots that all have a record are told apart from the records only by their notes. -/
theorem entries_of_get {slots : List (Slot R)} (h : ∀ slot ∈ slots, ∃ r, slot.get = .ok r) :
    ∃ entries : List (R × List (String × Value)), slots = entries.map fun e => .own e.1 e.2 := by
  induction slots with
  | nil => exact ⟨[], rfl⟩
  | cons slot rest ih =>
      obtain ⟨entries, rfl⟩ := ih fun s member => h s (List.mem_cons_of_mem _ member)
      obtain ⟨r, found⟩ := h slot List.mem_cons_self
      cases slot with
      | other v => cases found
      | own record notes => exact ⟨(record, notes) :: entries, rfl⟩

theorem records_own (entries : List (R × List (String × Value))) :
    (Slots.own (entries.map fun e => .own e.1 e.2)).records = entries.map (·.1) := by
  induction entries with
  | nil => rfl
  | cons e rest ih => exact congrArg (e.1 :: ·) ih

theorem onlyRecords_of_get {slots : Slots R} {members : List (Slot R)}
    (reading : slots.members = .ok members) (h : ∀ slot ∈ members, ∃ r, slot.get = .ok r) :
    slots.OnlyRecords := by
  obtain ⟨entries, rfl⟩ := entries_of_get h
  refine ⟨entries, reading, ?_⟩
  cases slots with
  | own slots =>
      cases reading
      exact records_own entries
  | other v =>
      obtain ⟨vs, -, same⟩ := map_eq_ok_iff.mp reading
      cases entries with
      | nil => rfl
      | cons e rest => cases vs <;> cases same

theorem Holds.onlyRecords {P : R → Prop} {slots : Slots R} (h : slots.Holds P) :
    slots.OnlyRecords := by
  cases slots with
  | other v => exact False.elim h
  | own members =>
      exact onlyRecords_of_get rfl fun slot member => (h slot member).get.imp fun _ found => found.1

theorem Holds.records {P : R → Prop} {slots : Slots R} (h : slots.Holds P) :
    ∀ r ∈ slots.records, P r := by
  cases slots with
  | other v => exact False.elim h
  | own members =>
      intro r member
      obtain ⟨slot, inside, found⟩ := List.mem_filterMap.mp member
      have holds := h slot inside
      cases slot with
      | other v => exact False.elim holds
      | own record notes =>
          cases found
          exact holds

theorem Holds.isSet_iff {P : R → Prop} {slots : Slots R} (h : slots.Holds P) :
    slots.isSet = true ↔ slots.records ≠ [] := by
  obtain ⟨entries, reading, records⟩ := h.onlyRecords
  cases slots with
  | other v => exact False.elim h
  | own members =>
      cases reading
      rw [records]
      cases entries <;> simp [isSet]

section OnlyRecords

variable {slots : Slots R}

theorem records_of_unset (unset : slots.isSet = false) :
    slots.records = [] := by
  cases slots with
  | other v => rfl
  | own members =>
      cases members with
      | nil => rfl
      | cons slot rest => cases unset

/-- Going through the members is going through the records. -/
theorem OnlyRecords.mapM_members (h : slots.OnlyRecords) (f : R → Except Fault S) :
    (slots.members >>= List.mapM fun slot => slot.get >>= f) = slots.records.mapM f := by
  obtain ⟨entries, reading, records⟩ := h
  rw [records, reading]
  change List.mapM _ (entries.map _) = List.mapM _ (entries.map _)
  rw [List.mapM_map, List.mapM_map]
  rfl

theorem OnlyRecords.any_members (h : slots.OnlyRecords) (p : R → Test) :
    (slots.members >>= Test.any (Slot.test p)) = Test.any p slots.records := by
  obtain ⟨entries, reading, records⟩ := h
  rw [records, reading]
  change Test.any _ (entries.map _) = Test.any _ (entries.map _)
  rw [Test.any_map, Test.any_map]
  rfl

theorem OnlyRecords.all_members (h : slots.OnlyRecords) (p : R → Test) :
    (slots.members >>= Test.all (Slot.test p)) = Test.all p slots.records := by
  obtain ⟨entries, reading, records⟩ := h
  rw [records, reading]
  change Test.all _ (entries.map _) = Test.all _ (entries.map _)
  rw [Test.all_map, Test.all_map]
  rfl

/-- A list that can be gone through to its end holds only records. -/
theorem onlyRecords_of_mapM {f : R → Except Fault S} {found : List S}
    (h : (slots.members >>= List.mapM fun slot => slot.get >>= f) = .ok found) :
    slots.OnlyRecords := by
  obtain ⟨members, reading, through⟩ := bind_eq_ok_iff.mp h
  refine onlyRecords_of_get reading fun slot member => ?_
  obtain ⟨s, -, given⟩ := eq_ok_of_mapM through member
  exact (bind_eq_ok_iff.mp given).imp fun _ found => found.1

theorem onlyRecords_of_any {p : R → Test}
    (h : (slots.members >>= Test.any (Slot.test p)) = .ok false) : slots.OnlyRecords := by
  obtain ⟨members, reading, asked⟩ := bind_eq_ok_iff.mp h
  refine onlyRecords_of_get reading fun slot member => ?_
  exact (bind_eq_ok_iff.mp (Test.any_eq_no_iff.mp asked slot member)).imp fun _ found => found.1

/-- What is found at the records of a list, one after the other. -/
def gather (slots : Slots R) (f : R → Except Fault (List S)) : Except Fault (List S) := do
  let found ← (← slots.members).mapM fun slot => do f (← slot.get)
  return found.flatten

theorem OnlyRecords.gather_eq (h : slots.OnlyRecords) (f : R → Except Fault (List S)) :
    slots.gather f = (slots.records.mapM f).map List.flatten := by
  rw [← h.mapM_members, gather]
  cases slots.members with
  | error fault => rfl
  | ok members => rfl

theorem onlyRecords_of_gather {f : R → Except Fault (List S)} {found : List S}
    (h : slots.gather f = .ok found) : slots.OnlyRecords := by
  obtain ⟨members, reading, h⟩ := bind_eq_ok_iff.mp h
  obtain ⟨parts, through, -⟩ := bind_eq_ok_iff.mp h
  exact onlyRecords_of_mapM (bind_eq_ok_iff.mpr ⟨members, reading, through⟩)

/-- What has been found was found at each record. -/
theorem gather_eq_ok {f : R → Except Fault (List S)} {g : R → List S} {found : List S}
    (h : slots.gather f = .ok found) (given : ∀ r part, f r = .ok part → part = g r) :
    found = slots.records.flatMap g ∧ ∀ r ∈ slots.records, ∃ part, f r = .ok part := by
  rw [(onlyRecords_of_gather h).gather_eq] at h
  obtain ⟨parts, through, rfl⟩ := map_eq_ok_iff.mp h
  refine ⟨?_, fun r member => (eq_ok_of_mapM through member).imp fun _ given => given.2⟩
  rw [eq_map_of_mapM through given, List.flatMap_def]

theorem Holds.gather_total {P : R → Prop} (h : slots.Holds P) {f : R → Except Fault (List S)}
    (total : ∀ r, P r → ∃ part, f r = .ok part) : ∃ found, slots.gather f = .ok found := by
  obtain ⟨parts, through⟩ := mapM_total fun r member => total r (h.records r member)
  exact ⟨parts.flatten, by rw [h.onlyRecords.gather_eq, through]; rfl⟩

theorem OnlyRecords.gather_nil (h : slots.OnlyRecords) {f : R → Except Fault (List S)}
    (none : ∀ r ∈ slots.records, f r = .ok []) : slots.gather f = .ok [] := by
  have through : slots.records.mapM f = .ok (slots.records.map fun _ => []) := mapM_eq_ok_map none
  rw [h.gather_eq, through]
  refine congrArg Except.ok (List.flatten_eq_nil_iff.mpr fun part member => ?_)
  obtain ⟨r, -, rfl⟩ := List.mem_map.mp member
  rfl

end OnlyRecords

end Slots
end CourseAudit
