import CourseAudit.Proofs.Outcome
import CourseAudit.Proofs.Questions

/-!
Records in the same places. When two tasks hold related records place by place, whatever is asked
of all places is answered alike as soon as it is at related records. A task is evaluated by nothing
else than how its conditions are decided and rendered.
-/
namespace CourseAudit

section Chains

variable {α β γ δ : Type} {R : α → β → Prop} {S : γ → δ → Prop}

/-- Two computations that fail by the same fault, or both give results that are related. -/
inductive Alike (R : α → β → Prop) : Except Fault α → Except Fault β → Prop
  | ok {a : α} {b : β} (h : R a b) : Alike R (.ok a) (.ok b)
  | error (fault : Fault) : Alike R (.error fault) (.error fault)

namespace Alike

variable {x : Except Fault α} {y : Except Fault β}

theorem bind {f : α → Except Fault γ} {g : β → Except Fault δ} (h : Alike R x y)
    (next : ∀ a b, R a b → Alike S (f a) (g b)) : Alike S (x >>= f) (y >>= g) := by
  cases h with
  | ok related => exact next _ _ related
  | error fault => exact .error fault

theorem bind_eq {f : α → Except Fault γ} {g : β → Except Fault γ} (h : Alike R x y)
    (next : ∀ a b, R a b → f a = g b) : x >>= f = y >>= g := by
  cases h with
  | ok related => exact next _ _ related
  | error fault => rfl

theorem imp {S : α → β → Prop} (h : Alike R x y) (weaker : ∀ a b, R a b → S a b) :
    Alike S x y := by
  cases h with
  | ok related => exact .ok (weaker _ _ related)
  | error fault => exact .error fault

theorem of_ok {a : α} (h : Alike R x y) (found : x = .ok a) : ∃ b, y = .ok b ∧ R a b := by
  cases h with
  | ok related =>
      cases found
      exact ⟨_, rfl, related⟩
  | error fault => cases found

theorem to_ok {b : β} (h : Alike R x y) (found : y = .ok b) : ∃ a, x = .ok a ∧ R a b := by
  cases h with
  | ok related =>
      cases found
      exact ⟨_, rfl, related⟩
  | error fault => cases found

/-- Failing by the same fault is failing. -/
theorem concur (h : Alike R x y) : Concur R x y := by
  cases h with
  | ok related => exact .ok related
  | error fault => exact .error fault fault

theorem map_eq {f : α → γ} {g : β → γ} (h : Alike R x y) (same : ∀ a b, R a b → f a = g b) :
    x.map f = y.map g := by
  cases h with
  | ok related => exact congrArg Except.ok (same _ _ related)
  | error fault => rfl

end Alike

/-- Going through related lists gives related lists, or the same first fault. -/
theorem alike_mapM {as : List α} {bs : List β} {f : α → Except Fault γ} {g : β → Except Fault δ}
    (h : List.Forall₂ R as bs) (each : ∀ a b, R a b → Alike S (f a) (g b)) :
    Alike (List.Forall₂ S) (as.mapM f) (bs.mapM g) := by
  induction h with
  | nil => exact .ok .nil
  | cons first _ ih =>
      rw [List.mapM_cons, List.mapM_cons]
      refine (each _ _ first).bind fun c d same => ?_
      exact ih.bind fun cs ds rest => .ok (.cons same rest)

namespace Test

theorem any_congr {as : List α} {bs : List β} {p : α → Test} {q : β → Test}
    (h : List.Forall₂ R as bs) (same : ∀ a b, R a b → p a = q b) : any p as = any q bs := by
  induction h with
  | nil => rfl
  | cons first _ ih => rw [any, any, same _ _ first, ih]

theorem all_congr {as : List α} {bs : List β} {p : α → Test} {q : β → Test}
    (h : List.Forall₂ R as bs) (same : ∀ a b, R a b → p a = q b) : all p as = all q bs := by
  induction h with
  | nil => rfl
  | cons first _ ih => rw [all, all, same _ _ first, ih]

end Test

/-- Two slots with related records, or with the same other value. -/
inductive Slot.Related (R : α → β → Prop) : Slot α → Slot β → Prop
  | own {r : α} {s : β} {notes others : List (String × Value)} (h : R r s) :
      Related R (.own r notes) (.own s others)
  | other (v : Value) : Related R (.other v) (.other v)

namespace Slot.Related

variable {slot : Slot α} {other : Slot β}

theorem get (h : Related R slot other) : Alike R slot.get other.get := by
  cases h with
  | own related => exact .ok related
  | other v => exact .error .absent

theorem isNull (h : Related R slot other) : slot.isNull = other.isNull := by
  cases h <;> rfl

theorem imp {T : α → β → Prop} (h : Related R slot other) (weaker : ∀ r s, R r s → T r s) :
    Related T slot other := by
  cases h with
  | own related => exact .own (weaker _ _ related)
  | other v => exact .other v

theorem test {p : α → Test} {q : β → Test} (h : Related R slot other)
    (same : ∀ r s, R r s → p r = q s) : slot.test p = other.test q :=
  h.get.bind_eq same

end Slot.Related

/-- Two lists with related slots place by place, or the same other value. -/
inductive Slots.Related (R : α → β → Prop) : Slots α → Slots β → Prop
  | own {slots : List (Slot α)} {others : List (Slot β)}
      (h : List.Forall₂ (Slot.Related R) slots others) : Related R (.own slots) (.own others)
  | other (v : Value) : Related R (.other v) (.other v)

namespace Slots.Related

variable {slots : Slots α} {others : Slots β}

theorem members (h : Related R slots others) :
    Alike (List.Forall₂ (Slot.Related R)) slots.members others.members := by
  cases h with
  | own related => exact .ok related
  | other v =>
      cases reading : v.members with
      | error fault =>
          simp only [Slots.members, reading]
          exact .error fault
      | ok vs =>
          simp only [Slots.members, reading]
          refine .ok ?_
          rw [List.forall₂_map_left_iff, List.forall₂_map_right_iff, List.forall₂_same]
          exact fun v _ => .other v

theorem imp {T : α → β → Prop} (h : Related R slots others) (weaker : ∀ r s, R r s → T r s) :
    Related T slots others := by
  cases h with
  | own related => exact .own (related.imp fun _ _ slot => slot.imp weaker)
  | other v => exact .other v

theorem isSet (h : Related R slots others) : slots.isSet = others.isSet := by
  cases h with
  | own related => cases related <;> rfl
  | other v => rfl

theorem any {p : α → Test} {q : β → Test} (h : Related R slots others)
    (same : ∀ r s, R r s → p r = q s) :
    (slots.members >>= Test.any (Slot.test p)) = (others.members >>= Test.any (Slot.test q)) :=
  h.members.bind_eq fun _ _ related => Test.any_congr related fun _ _ slot => slot.test same

theorem all {p : α → Test} {q : β → Test} (h : Related R slots others)
    (same : ∀ r s, R r s → p r = q s) :
    (slots.members >>= Test.all (Slot.test p)) = (others.members >>= Test.all (Slot.test q)) :=
  h.members.bind_eq fun _ _ related => Test.all_congr related fun _ _ slot => slot.test same

end Slots.Related

end Chains

namespace PlanTask

variable {catalog : Catalog} {context : EvaluationContext} {R : Condition → Condition → Prop}
  {t u : PlanTask} {s s' : Slot Section}

/-- Two tasks that are presented alike and have related conditions in the same places. -/
structure Related (R : Condition → Condition → Prop) (t u : PlanTask) : Prop where
  groups : t.groups.Related (fun g h => g.conditions.Related R h.conditions) u.groups
  displayType : t.displayType = u.displayType
  onPass : t.onPass = u.onPass
  onFailure : t.onFailure = u.onFailure

theorem Related.conditions (h : Related R t u) :
    Alike (List.Forall₂ (Slot.Related R)) t.conditions u.conditions := by
  refine h.groups.members.bind fun groups others related => ?_
  have each := alike_mapM related fun slot other same =>
    same.get.bind fun _ _ conditions => conditions.members
  exact each.bind fun _ _ found => .ok (List.rel_flatten found)

theorem Related.governing (h : Related R t u) :
    Alike (Option.Rel (Slot.Related R)) t.governing u.governing := by
  refine h.conditions.bind fun slots others related => ?_
  cases related with
  | nil => exact .ok .none
  | cons first rest =>
      cases rest with
      | nil =>
          simp only [first.isNull]
          split
          · exact .ok .none
          · exact .ok (.some first)
      | cons _ _ => exact .ok .none

theorem Related.passes (h : Related R t u)
    (decides : ∀ c d, R c d → c.holds catalog context s = d.holds catalog context s') :
    t.passes catalog context s = u.passes catalog context s' := by
  refine h.groups.any fun g k conditions => conditions.all fun c d same => ?_
  rw [decides c d same]

/-- What is shown hangs on what the governing condition renders as, but not on why it cannot. -/
theorem displayOf_concur (typed : t.displayType = u.displayType) {slot other : Slot Condition}
    (renders : ∀ type, Concur Eq (slot.get >>= fun c => c.rendered catalog context type s)
      (other.get >>= fun d => d.rendered catalog context type s')) (passes : Bool) :
    t.displayOf context passes (some slot) (fun c => c.resolve catalog context s) =
      u.displayOf context passes (some other) (fun d => d.resolve catalog context s') := by
  cases ht : DisplayType.ofValue? t.displayType with
  | none => rw [displayOf_yesNo _ _ (.inl ht), displayOf_yesNo _ _ (.inl (typed ▸ ht))]
  | some type =>
      by_cases plain : type = .yesNo
      · subst plain
        rw [displayOf_yesNo _ _ (.inr (.inl ht)), displayOf_yesNo _ _ (.inr (.inl (typed ▸ ht)))]
      · rw [displayOf_valued ht plain, displayOf_valued (typed ▸ ht) plain]
        generalize (slot.get >>= fun c => c.rendered catalog context type s) = shown,
          (other.get >>= fun d => d.rendered catalog context type s') = shown', renders type = same
        cases same with
        | ok text => exact text
        | error fault other => rfl

theorem Related.display (h : Related R t u)
    (renders : ∀ c d, R c d → ∀ type, Concur Eq (c.rendered catalog context type s)
      (d.rendered catalog context type s')) (passes : Bool) :
    t.display catalog context passes s = u.display catalog context passes s' := by
  refine h.governing.map_eq fun governing other related => ?_
  cases related with
  | none => rw [displayOf_yesNo _ _ (.inr (.inr rfl)), displayOf_yesNo _ _ (.inr (.inr rfl))]
  | some slot =>
      refine displayOf_concur h.displayType (fun type => ?_) passes
      exact slot.get.concur.bind fun c d same => renders c d same type

/-- Tasks whose conditions are decided and rendered alike are evaluated alike, even when their
conditions fail by different faults. -/
theorem Related.evaluate_of_concur (h : Related R t u)
    (sections : Alike (fun _ _ => True) s.get s'.get)
    (decides : ∀ c d, R c d → c.holds catalog context s = d.holds catalog context s')
    (renders : ∀ c d, R c d → ∀ type, Concur Eq (c.rendered catalog context type s)
      (d.rendered catalog context type s')) :
    t.evaluate catalog context s = u.evaluate catalog context s' := by
  have presented (passes : Bool) : t.presentation passes = u.presentation passes := by
    simp only [presentation, h.onPass, h.onFailure]
  unfold PlanTask.evaluate
  rw [h.groups.isSet]
  simp only [h.passes decides, h.display renders, presented]
  split
  · refine bind_congr fun passes => bind_congr fun display => ?_
    exact sections.bind_eq fun _ _ _ => rfl
  · rfl

/-- Tasks whose conditions are decided and rendered alike are evaluated alike. -/
theorem Related.evaluate (h : Related R t u) (sections : Alike (fun _ _ => True) s.get s'.get)
    (decides : ∀ c d, R c d → c.holds catalog context s = d.holds catalog context s')
    (renders : ∀ c d, R c d → ∀ type,
      c.rendered catalog context type s = d.rendered catalog context type s') :
    t.evaluate catalog context s = u.evaluate catalog context s' :=
  h.evaluate_of_concur sections decides fun c d same type => by
    rw [renders c d same type]
    exact .refl _

end PlanTask
end CourseAudit
