import CourseAudit.Proofs.Alike
import CourseAudit.Proofs.Completeness

/-!
Lists that lose some of their members. When what is found at each record of a list only loses
members, so does what is found at all of them, and nothing is lost of it exactly when nothing is
lost at any record.
-/
namespace CourseAudit

section Lists

variable {α β : Type} {P : α → Prop} {Q : β → Prop} {as bs cs ds : List α} {k l : Prop}

/-- An ordered deletion of some members that have a property. -/
inductive Sheds (P : α → Prop) : List α → List α → Prop
  | nil : Sheds P [] []
  | drop {a : α} {as bs : List α} (h : P a) : Sheds P as bs → Sheds P (a :: as) bs
  | keep {a : α} {as bs : List α} : Sheds P as bs → Sheds P (a :: as) (a :: bs)

namespace Sheds

theorem refl (as : List α) : Sheds P as as := by
  induction as with
  | nil => exact .nil
  | cons a as ih => exact .keep ih

theorem sublist (h : Sheds P as bs) : bs.Sublist as := by
  induction h with
  | nil => exact .slnil
  | drop _ _ ih => exact .cons _ ih
  | keep _ ih => exact .cons_cons _ ih

theorem append (h : Sheds P as bs) (later : Sheds P cs ds) : Sheds P (as ++ cs) (bs ++ ds) := by
  induction h with
  | nil => exact later
  | drop lost _ ih => exact .drop lost ih
  | keep _ ih => exact .keep ih

theorem map {f : α → β} (h : Sheds P as bs) (carried : ∀ a, P a → Q (f a)) :
    Sheds Q (as.map f) (bs.map f) := by
  induction h with
  | nil => exact .nil
  | drop lost _ ih => exact .drop (carried _ lost) ih
  | keep _ ih => exact .keep ih

end Sheds

/-- Members with a property may be lost; none is exactly under a condition. -/
structure Loses (P : α → Prop) (none : Prop) (as bs : List α) : Prop where
  sheds : Sheds P as bs
  same : bs = as ↔ none

namespace Loses

theorem refl (h : k) (as : List α) : Loses P k as as :=
  ⟨.refl as, iff_of_true rfl h⟩

theorem congr (h : Loses P k as bs) (same : k ↔ l) : Loses P l as bs :=
  ⟨h.sheds, h.same.trans same⟩

theorem append (h : Loses P k as bs) (later : Loses P l cs ds) :
    Loses P (k ∧ l) (as ++ cs) (bs ++ ds) where
  sheds := h.sheds.append later.sheds
  same := by
    rw [← h.same, ← later.same]
    constructor
    · intro joined
      -- Neither part is longer than it was, so that both are as long.
      have first := h.sheds.sublist.length_le
      have second := later.sheds.sublist.length_le
      have total := congrArg List.length joined
      simp only [List.length_append] at total
      exact List.append_inj joined (by omega)
    · rintro ⟨rfl, rfl⟩
      rfl

theorem map {f : α → β} (h : Loses P k as bs) (carried : ∀ a, P a → Q (f a))
    (injective : Function.Injective f) : Loses Q k (as.map f) (bs.map f) :=
  ⟨h.sheds.map carried, (List.map_injective_iff.mpr injective).eq_iff.trans h.same⟩

end Loses
end Lists

/-- A single question that no longer says yes takes its kind out of the list. -/
theorem foundGaps_loses {P : GapKind → Prop} {kind : GapKind} (lost : P kind)
    {test other : Test} (h : other = test ∨ test = .ok true ∧ other = .ok false)
    (before after : List (GapKind × Test)) :
    Alike (Loses P (other = test)) (foundGaps (before ++ (kind, test) :: after))
      (foundGaps (before ++ (kind, other) :: after)) := by
  induction before with
  | nil =>
      rw [List.nil_append, List.nil_append, foundGaps, foundGaps]
      rcases h with rfl | ⟨rfl, rfl⟩
      · cases other with
        | error fault => exact .error fault
        | ok b =>
            cases foundGaps after with
            | error fault => exact .error fault
            | ok others => exact .ok (.refl rfl _)
      · cases foundGaps after with
        | error fault => exact .error fault
        | ok others => exact .ok ⟨.drop lost (.refl others), by simp⟩
  | cons e before ih =>
      obtain ⟨first, asked⟩ := e
      rw [List.cons_append, List.cons_append, foundGaps, foundGaps]
      cases asked with
      | error fault => exact .error fault
      | ok b =>
          rw [ok_bind, ok_bind]
          refine ih.bind fun found less loses => .ok ?_
          cases b with
          | false => exact loses
          | true => exact ⟨.keep loses.sheds, (List.cons_inj_right first).trans loses.same⟩

section Slots

variable {R S α : Type} {same K : R → S → Prop} {P : α → Prop}
  {f : R → Except Fault (List α)} {g : S → Except Fault (List α)}

theorem Slot.related_own_iff {r : R} {s : S} {notes others : List (String × Value)} :
    Slot.Related K (.own r notes) (.own s others) ↔ K r s := by
  constructor
  · rintro ⟨h⟩
    exact h
  · exact .own

theorem mapM_flatten_cons {β : Type} (f : β → Except Fault (List α)) (b : β) (bs : List β) :
    ((b :: bs).mapM f).map List.flatten = do
      let part ← f b
      let parts ← (bs.mapM f).map List.flatten
      return part ++ parts := by
  rw [List.mapM_cons]
  cases f b with
  | error fault => rfl
  | ok part =>
      cases bs.mapM f with
      | error fault => rfl
      | ok parts => rfl

/-- What is lost in going through slots is lost at their records. -/
theorem alike_loses {slots : List (Slot R)} {others : List (Slot S)}
    (h : List.Forall₂ (Slot.Related same) slots others)
    (each : ∀ r s, same r s → Alike (Loses P (K r s)) (f r) (g s)) :
    Alike (Loses P (List.Forall₂ (Slot.Related K) slots others))
      ((slots.mapM fun slot => slot.get >>= f).map List.flatten)
      ((others.mapM fun slot => slot.get >>= g).map List.flatten) := by
  induction h with
  | nil => exact .ok (.refl .nil [])
  | cons first _ ih =>
      rw [mapM_flatten_cons, mapM_flatten_cons]
      cases first with
      | other v => exact .error .absent
      | own related =>
          refine (each _ _ related).bind fun part part' loses => ?_
          refine ih.bind fun parts parts' later => .ok ((loses.append later).congr ?_)
          rw [List.forall₂_cons, Slot.related_own_iff]

theorem Slots.gather_eq_map (slots : Slots R) :
    slots.gather f = slots.members >>= fun members =>
      (members.mapM fun slot => slot.get >>= f).map List.flatten := by
  unfold gather
  refine bind_congr fun members => ?_
  cases members.mapM fun slot => slot.get >>= f <;> rfl

theorem Slots.related_own_iff {slots : List (Slot R)} {others : List (Slot S)} :
    Slots.Related K (.own slots) (.own others) ↔
      List.Forall₂ (Slot.Related K) slots others := by
  constructor
  · rintro ⟨h⟩
    exact h
  · exact .own

theorem Slots.Related.gather_loses {slots : Slots R} {others : Slots S}
    (h : slots.Related same others)
    (each : ∀ r s, same r s → Alike (Loses P (K r s)) (f r) (g s)) :
    Alike (Loses P (slots.Related K others)) (slots.gather f) (others.gather g) := by
  rw [gather_eq_map, gather_eq_map]
  cases h with
  | own related =>
      rw [Slots.related_own_iff]
      exact alike_loses related each
  | other v =>
      rw [Slots.members, Slots.members]
      cases v.members with
      | error fault => exact .error fault
      | ok vs =>
          -- What stands in the place of a list has no records, so that there is nothing to lose.
          cases vs with
          | nil => exact .ok (.refl (Related.other v) [])
          | cons w rest => exact .error .absent

end Slots
end CourseAudit
