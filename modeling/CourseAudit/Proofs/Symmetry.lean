import CourseAudit.Proofs.Entries
import CourseAudit.Proofs.Rereading
import CourseAudit.Proofs.Sameness
import Mathlib.Data.List.Perm.Subperm

/-!
Sameness of records either way round. A dict is compared by looking its names up in the other one,
so that sameness is symmetric as long as the names of a dict occur once.
-/
namespace CourseAudit

theorem Binary64.same_comm (x y : Binary64) : x.same y = y.same x := by
  rw [Bool.eq_iff_iff, same_iff, same_iff, eq_comm]

theorem Timestamp.sameMoment_comm (t u : Timestamp) : t.sameMoment u = u.sameMoment t := by
  unfold sameMoment
  rw [BEq.comm (a := t.offset.isSome), BEq.comm (a := t.instant)]

namespace Value

theorem sameScalar_comm (v w : Value) : sameScalar v w = sameScalar w v := by
  cases v with
  | float x =>
      cases w with
      | float y => exact Binary64.same_comm x y
      | _ => rfl
  | moment t =>
      cases w with
      | moment u => exact Timestamp.sameMoment_comm t u
      | _ => rfl
  | date d =>
      cases w with
      | date e => exact BEq.comm
      | _ => rfl
  | int | bool =>
      cases w with
      | int | bool => exact BEq.comm
      | _ => rfl
  | text | choice =>
      cases w with
      | text | choice => exact BEq.comm
      | _ => rfl
  | null | list | tuple | dict => cases w <;> rfl

mutual

/-- Whether the names of every dict in a value occur once. -/
def namedOnce : Value → Bool
  | .list items | .tuple items => allNamedOnce items
  | .dict entries => decide (entries.map (·.1)).Nodup && entriesNamedOnce entries
  | _ => true

def allNamedOnce : List Value → Bool
  | [] => true
  | v :: vs => v.namedOnce && allNamedOnce vs

def entriesNamedOnce : List (String × Value) → Bool
  | [] => true
  | (_, v) :: rest => v.namedOnce && entriesNamedOnce rest

end

theorem namedOnce_of_mem : ∀ {entries : List (String × Value)}, entriesNamedOnce entries = true →
    ∀ entry ∈ entries, entry.2.namedOnce = true
  | [], _, _, member => absurd member List.not_mem_nil
  | (name, v) :: rest, h, entry, member => by
      rw [entriesNamedOnce, Bool.and_eq_true] at h
      rcases List.mem_cons.mp member with rfl | later
      · exact h.1
      · exact namedOnce_of_mem h.2 entry later

theorem same_symm_of_scalar {v w : Value} (scalar : v.same w = sameScalar v w)
    (scalarToo : w.same v = sameScalar w v) (h : v.same w = true) : w.same v = true := by
  rw [scalarToo, sameScalar_comm, ← scalar, h]

theorem sameEntries_iff {entries others : List (String × Value)} :
    sameEntries entries others = true ↔
      ∀ entry ∈ entries, ∃ w, get? others entry.1 = some w ∧ entry.2.same w = true := by
  induction entries with
  | nil => simp [sameEntries]
  | cons entry rest ih =>
      rw [sameEntries, Bool.and_eq_true, ih, List.forall_mem_cons]
      refine and_congr_left fun _ => ?_
      cases get? others entry.1 with
      | none => simp
      | some w => simp

/-- Of as many entries under distinct names, those that are found in the other dict are all. -/
theorem sameEntries_symm_of {entries others : List (String × Value)}
    (once : (entries.map (·.1)).Nodup) (onceMore : (others.map (·.1)).Nodup)
    (size : entries.length = others.length)
    (back : ∀ entry ∈ entries, ∀ w, get? others entry.1 = some w → entry.2.same w = true →
      w.same entry.2 = true)
    (h : sameEntries entries others = true) : sameEntries others entries = true := by
  rw [sameEntries_iff] at h ⊢
  have inside : entries.map (·.1) ⊆ others.map (·.1) := by
    intro name member
    obtain ⟨entry, there, rfl⟩ := List.mem_map.mp member
    obtain ⟨w, found, -⟩ := h entry there
    exact List.mem_map.mpr ⟨(entry.1, w), mem_of_get? found, rfl⟩
  have all : (entries.map (·.1)).Perm (others.map (·.1)) :=
    (once.subperm inside).perm_of_length_le (by simp [size])
  rintro ⟨name, w⟩ member
  obtain ⟨entry, there, rfl⟩ := List.mem_map.mp (all.mem_iff.mpr (List.mem_map_of_mem member))
  obtain ⟨w', found, same⟩ := h entry there
  have own : w' = w := Option.some.inj (found.symm.trans (get?_of_nodup onceMore member))
  subst own
  exact ⟨entry.2, get?_of_nodup once there, back entry there w' found same⟩

mutual

theorem same_symm : ∀ {v w : Value}, v.namedOnce = true → w.namedOnce = true →
    v.same w = true → w.same v = true := by
  intro v w hv hw h
  match v with
  | .list vs =>
      cases w with
      | list ws => exact sameList_symm hv hw h
      | _ => exact same_symm_of_scalar rfl rfl h
  | .tuple vs =>
      cases w with
      | tuple ws => exact sameList_symm hv hw h
      | _ => exact same_symm_of_scalar rfl rfl h
  | .dict es =>
      cases w with
      | dict fs =>
          rw [namedOnce, Bool.and_eq_true, decide_eq_true_iff] at hv hw
          rw [same, Bool.and_eq_true, beq_iff_eq] at h ⊢
          refine ⟨h.1.symm, sameEntries_symm_of hv.1 hw.1 h.1 ?_ h.2⟩
          intro entry there w found same
          have once := namedOnce_of_mem hw.2 (entry.1, w) (mem_of_get? found)
          exact entries_symm hv.2 entry there once same
      | _ => exact same_symm_of_scalar rfl rfl h
  | .null | .bool _ | .int _ | .float _ | .text _ | .date _ | .moment _ | .choice _ =>
      cases w <;> exact same_symm_of_scalar rfl rfl h

theorem sameList_symm : ∀ {vs ws : List Value}, allNamedOnce vs = true → allNamedOnce ws = true →
    sameList vs ws = true → sameList ws vs = true
  | [], [], _, _, _ => rfl
  | v :: vs, w :: ws, hv, hw, h => by
      rw [allNamedOnce, Bool.and_eq_true] at hv hw
      rw [sameList, Bool.and_eq_true] at h ⊢
      exact ⟨same_symm hv.1 hw.1 h.1, sameList_symm hv.2 hw.2 h.2⟩

theorem entries_symm : ∀ {entries : List (String × Value)}, entriesNamedOnce entries = true →
    ∀ entry ∈ entries, ∀ {w : Value}, w.namedOnce = true → entry.2.same w = true →
      w.same entry.2 = true
  | [], _, _, member => absurd member List.not_mem_nil
  | (name, v) :: rest, h, entry, member => by
      rw [entriesNamedOnce, Bool.and_eq_true] at h
      intro hw same
      rcases List.mem_cons.mp member with rfl | later
      · exact same_symm h.1 hw same
      · exact entries_symm h.2 entry later hw same

end

end Value

theorem sameAll_symm {α : Type} {same : α → α → Bool} {as bs : List α}
    (each : ∀ a ∈ as, ∀ b ∈ bs, same a b = true → same b a = true)
    (h : sameAll same as bs = true) : sameAll same bs as = true := by
  induction as generalizing bs with
  | nil => cases bs with
    | nil => rfl
    | cons b bs => cases h
  | cons a as ih => cases bs with
    | nil => cases h
    | cons b bs =>
        rw [sameAll, Bool.and_eq_true] at h ⊢
        refine ⟨each a List.mem_cons_self b List.mem_cons_self h.1, ih ?_ h.2⟩
        exact fun a there b here =>
          each a (List.mem_cons_of_mem _ there) b (List.mem_cons_of_mem _ here)

section Slots

variable {R : Type} {P : R → Prop} {same : R → R → Bool}

/-- A slot with a record of a kind, or with a value in which the names of every dict occur once. -/
def Slot.NamedOnce (P : R → Prop) : Slot R → Prop
  | .own record _ => P record
  | .other v => v.namedOnce = true

def Slots.NamedOnce (P : R → Prop) : Slots R → Prop
  | .own members => ∀ slot ∈ members, slot.NamedOnce P
  | .other v => v.namedOnce = true

variable (each : ∀ {r s}, P r → P s → same r s = true → same s r = true)

include each

theorem Slot.same_symm {slot other : Slot R} (hs : slot.NamedOnce P) (ho : other.NamedOnce P)
    (h : slot.same same other = true) : other.same same slot = true := by
  cases slot with
  | own r notes =>
      cases other with
      | own s others => exact each hs ho h
      | other w => cases h
  | other v =>
      cases other with
      | own s others => cases h
      | other w => exact Value.same_symm hs ho h

theorem Slots.same_symm {slots others : Slots R} (hs : slots.NamedOnce P) (ho : others.NamedOnce P)
    (h : slots.same same others = true) : others.same same slots = true := by
  cases slots with
  | own members =>
      cases others with
      | own more =>
          refine sameAll_symm (fun slot there other here => ?_) h
          exact Slot.same_symm each (hs slot there) (ho other here)
      | other w =>
          cases w with
          | list ws => exact h
          | _ => cases h
  | other v =>
      cases others with
      | own more =>
          cases v with
          | list vs => exact h
          | _ => cases h
      | other w => exact Value.same_symm hs ho h

end Slots

/-- A sub-condition in which the names of every dict occur once. -/
structure SubCondition.NamedOnce (s : SubCondition) : Prop where
  id : s.id.namedOnce = true
  property : s.property.namedOnce = true
  operator : s.operator.namedOnce = true
  value : s.value.namedOnce = true

theorem SubCondition.same_symm {s t : SubCondition} (hs : s.NamedOnce) (ht : t.NamedOnce)
    (h : s.same t = true) : t.same s = true := by
  simp only [SubCondition.same, Bool.and_eq_true] at h ⊢
  obtain ⟨⟨⟨id, property⟩, operator⟩, value⟩ := h
  exact ⟨⟨⟨Value.same_symm hs.id ht.id id, Value.same_symm hs.property ht.property property⟩,
    Value.same_symm hs.operator ht.operator operator⟩, Value.same_symm hs.value ht.value value⟩

/-- A condition in which the names of every dict occur once. -/
structure Condition.NamedOnce (c : Condition) : Prop where
  id : c.id.namedOnce = true
  groupType : c.groupType.namedOnce = true
  source : c.source.namedOnce = true
  property : c.property.namedOnce = true
  operator : c.operator.namedOnce = true
  value : c.value.namedOnce = true
  subConditions : c.subConditions.NamedOnce SubCondition.NamedOnce

theorem Condition.same_symm {c d : Condition} (hc : c.NamedOnce) (hd : d.NamedOnce)
    (h : c.same d = true) : d.same c = true := by
  simp only [Condition.same, Bool.and_eq_true] at h ⊢
  obtain ⟨⟨⟨⟨⟨⟨id, groupType⟩, source⟩, property⟩, operator⟩, value⟩, subs⟩ := h
  refine ⟨⟨⟨⟨⟨⟨?_, ?_⟩, ?_⟩, ?_⟩, ?_⟩, ?_⟩, ?_⟩
  · exact Value.same_symm hc.id hd.id id
  · exact Value.same_symm hc.groupType hd.groupType groupType
  · exact Value.same_symm hc.source hd.source source
  · exact Value.same_symm hc.property hd.property property
  · exact Value.same_symm hc.operator hd.operator operator
  · exact Value.same_symm hc.value hd.value value
  · exact Slots.same_symm SubCondition.same_symm hc.subConditions hd.subConditions subs

end CourseAudit
