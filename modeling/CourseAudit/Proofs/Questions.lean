import CourseAudit.Proofs.Fault
import Mathlib.Data.List.Perm.Basic

/-!
Questions asked of the members of a list, joined or put in another order. The answers are the same;
but a member that was left out before may be asked now and fail, and of several faults another one
may come first.
-/
namespace CourseAudit

section Chains

variable {α β γ δ : Type} {R : α → β → Prop} {S : γ → δ → Prop}

/-- Two computations that both fail, by whatever faults, or both give results that are related. -/
inductive Concur (R : α → β → Prop) : Except Fault α → Except Fault β → Prop
  | ok {a : α} {b : β} (h : R a b) : Concur R (.ok a) (.ok b)
  | error (fault other : Fault) : Concur R (.error fault) (.error other)

namespace Concur

variable {x : Except Fault α} {y : Except Fault β}

theorem of_ok (forth : ∀ a, x = .ok a → ∃ b, y = .ok b ∧ R a b)
    (back : ∀ b, y = .ok b → ∃ a, x = .ok a) : Concur R x y := by
  cases hx : x with
  | ok a =>
      obtain ⟨b, hy, related⟩ := forth a hx
      rw [hy]
      exact .ok related
  | error fault =>
      cases hy : y with
      | ok b =>
          obtain ⟨a, found⟩ := back b hy
          cases hx.symm.trans found
      | error other => exact .error fault other

theorem bind {f : α → Except Fault γ} {g : β → Except Fault δ} (h : Concur R x y)
    (next : ∀ a b, R a b → Concur S (f a) (g b)) : Concur S (x >>= f) (y >>= g) := by
  cases h with
  | ok related => exact next _ _ related
  | error fault other => exact .error fault other

theorem map {f : α → γ} {g : β → δ} (h : Concur R x y) (same : ∀ a b, R a b → S (f a) (g b)) :
    Concur S (x.map f) (y.map g) := by
  cases h with
  | ok related => exact .ok (same _ _ related)
  | error fault other => exact .error fault other

/-- What is known of every result of the first computation is known of a result. -/
theorem left {P : α → Prop} (h : Concur R x y) (known : ∀ a, x = .ok a → P a) :
    Concur (fun a b => R a b ∧ P a) x y := by
  cases h with
  | ok related => exact .ok ⟨related, known _ rfl⟩
  | error fault other => exact .error fault other

theorem refl (x : Except Fault α) : Concur Eq x x := by
  cases x with
  | ok a => exact .ok rfl
  | error fault => exact .error fault fault

theorem eq_ok_iff {x y : Except Fault α} : Concur Eq x y ↔ ∀ a, x = .ok a ↔ y = .ok a := by
  constructor
  · rintro (⟨rfl⟩ | _) a
    · rfl
    · constructor <;> intro h <;> cases h
  · exact fun same => of_ok (fun a found => ⟨a, (same a).mp found, rfl⟩) fun a found =>
      ⟨a, (same a).mpr found⟩

/-- A question that fails counts as answered no, whatever the fault. -/
theorem holds_eq {t u : Test} (h : Concur Eq t u) : t.holds = u.holds := by
  cases h with
  | ok same => rw [same]
  | error fault other => rfl

end Concur

/-- Two computations that give related results when both give one. -/
def Compatible (R : α → β → Prop) (x : Except Fault α) (y : Except Fault β) : Prop :=
  ∀ a b, x = .ok a → y = .ok b → R a b

namespace Compatible

variable {R : α → β → Prop} {S : γ → δ → Prop} {x : Except Fault α} {y : Except Fault β}

theorem bind {f : α → Except Fault γ} {g : β → Except Fault δ} (h : Compatible R x y)
    (next : ∀ a b, R a b → Compatible S (f a) (g b)) : Compatible S (x >>= f) (y >>= g) := by
  intro c d left right
  obtain ⟨a, found, left⟩ := bind_eq_ok_iff.mp left
  obtain ⟨b, other, right⟩ := bind_eq_ok_iff.mp right
  exact next a b (h a b found other) c d left right

theorem refl (x : Except Fault α) : Compatible Eq x x := fun _ _ found other =>
  Except.ok.inj (found.symm.trans other)

theorem map {f : α → γ} {g : β → δ} (h : Compatible R x y) (same : ∀ a b, R a b → S (f a) (g b)) :
    Compatible S (x.map f) (y.map g) := by
  intro c d left right
  obtain ⟨a, found, rfl⟩ := map_eq_ok_iff.mp left
  obtain ⟨b, other, rfl⟩ := map_eq_ok_iff.mp right
  exact same a b (h a b found other)

theorem bind_same {x : Except Fault α} {f : α → Except Fault γ} {g : α → Except Fault δ}
    (next : ∀ a, Compatible S (f a) (g a)) : Compatible S (x >>= f) (x >>= g) :=
  (refl x).bind fun a _ same => same ▸ next a

theorem of_concur (h : Concur R x y) : Compatible R x y := by
  intro a b found other
  cases h with
  | ok related =>
      cases found
      cases other
      exact related
  | error fault other => cases found

/-- When one has a result as soon as the other has, both have the same or none. -/
theorem concur {x y : Except Fault α} (h : Compatible Eq x y)
    (both : (∃ a, x = .ok a) ↔ ∃ a, y = .ok a) : Concur Eq x y := by
  refine .of_ok (fun a found => ?_) fun b found => both.mpr ⟨b, found⟩
  obtain ⟨b, other⟩ := both.mp ⟨a, found⟩
  exact ⟨b, other, h a b found other⟩

end Compatible

theorem concur_mapM_perm {as bs : List α} {f : α → Except Fault γ} (h : as.Perm bs) :
    Concur List.Perm (as.mapM f) (bs.mapM f) := by
  have through {as bs : List α} (h : as.Perm bs) {cs : List γ} (found : as.mapM f = .ok cs) :
      ∃ ds, bs.mapM f = .ok ds ∧ cs.Perm ds := by
    obtain ⟨ds, related, reordered⟩ := List.perm_comp_forall₂ h.symm (mapM_eq_ok_iff.mp found)
    exact ⟨ds, mapM_eq_ok_iff.mpr related, reordered.symm⟩
  refine .of_ok (fun cs found => through h found) fun ds found => ?_
  exact (through h.symm found).imp fun _ found => found.1

end Chains

namespace Test

variable {α : Type} {p q : α → Test} {as bs : List α}

theorem and_assoc (t u v : Test) : (t.and u).and v = t.and (u.and v) := by
  rcases t with fault | (_ | _) <;> rfl

theorem and_eq_yes_iff {t u : Test} : t.and u = .ok true ↔ t = .ok true ∧ u = .ok true := by
  rcases t with fault | (_ | _) <;> simp [Test.and]

theorem and_answers_iff {t u : Test} : (∃ b, t.and u = .ok b) ↔
    (∃ b, t = .ok b) ∧ (t.holds = true → ∃ b, u = .ok b) := by
  rcases t with fault | (_ | _) <;> simp [Test.and, holds]

theorem holds_and (t u : Test) : (t.and u).holds = (t.holds && u.holds) := by
  rcases t with fault | (_ | _) <;> rfl

theorem holds_all (p : α → Test) (as : List α) :
    (all p as).holds = as.all fun a => (p a).holds := by
  induction as with
  | nil => rfl
  | cons a rest ih => rw [all, holds_and, ih, List.all_cons]

theorem all_append (p : α → Test) (as bs : List α) :
    all p (as ++ bs) = (all p as).and (all p bs) := by
  induction as with
  | nil => rfl
  | cons a rest ih => rw [List.cons_append, all, all, ih, and_assoc]

theorem all_eq_yes_iff : all p as = .ok true ↔ ∀ a ∈ as, p a = .ok true := by
  induction as with
  | nil => simp [all]
  | cons a rest ih => rw [all, and_eq_yes_iff, ih, List.forall_mem_cons]

theorem filter_congr (h : ∀ a ∈ as, p a = q a) : filter p as = filter q as := by
  induction as with
  | nil => rfl
  | cons a rest ih =>
      rw [List.forall_mem_cons] at h
      rw [filter, filter, h.1, ih h.2]

/-- A list is filtered when every member has an answer, and what is kept are those that hold. -/
theorem filter_eq_ok_iff {kept : List α} : filter p as = .ok kept ↔
    (∀ a ∈ as, ∃ b, p a = .ok b) ∧ kept = as.filter fun a => (p a).holds := by
  induction as generalizing kept with
  | nil => simp [filter, eq_comm]
  | cons a rest ih =>
      rw [filter, bind_eq_ok_iff, List.forall_mem_cons]
      constructor
      · rintro ⟨b, answer, later⟩
        obtain ⟨others, found, same⟩ := bind_eq_ok_iff.mp later
        obtain ⟨answers, rfl⟩ := ih.mp found
        cases same
        refine ⟨⟨⟨b, answer⟩, answers⟩, ?_⟩
        rw [List.filter_cons, answer, holds_ok]
      · rintro ⟨⟨⟨b, answer⟩, answers⟩, rfl⟩
        refine ⟨b, answer, bind_eq_ok_iff.mpr ⟨_, ih.mpr ⟨answers, rfl⟩, ?_⟩⟩
        rw [List.filter_cons, answer, holds_ok]
        rfl

/-- Filtering by two questions is filtering by the second what the first has left. -/
theorem concur_filter_and : Concur Eq (filter (fun a => (p a).and (q a)) as)
    (filter p as >>= filter q) := by
  rw [Concur.eq_ok_iff]
  intro kept
  have joined : (as.filter fun a => ((p a).and (q a)).holds) =
      (as.filter fun a => (p a).holds).filter fun a => (q a).holds := by
    simp only [List.filter_filter, holds_and, Bool.and_comm]
  rw [filter_eq_ok_iff, bind_eq_ok_iff, joined]
  constructor
  -- a member that the first question drops is not asked the second, together or apart
  · rintro ⟨answers, rfl⟩
    have each (a : α) (member : a ∈ as) := and_answers_iff.mp (answers a member)
    refine ⟨_, filter_eq_ok_iff.mpr ⟨fun a member => (each a member).1, rfl⟩, ?_⟩
    refine filter_eq_ok_iff.mpr ⟨fun a left => ?_, rfl⟩
    obtain ⟨member, holds⟩ := List.mem_filter.mp left
    exact (each a member).2 holds
  · rintro ⟨left, first, second⟩
    obtain ⟨answers, rfl⟩ := filter_eq_ok_iff.mp first
    obtain ⟨later, rfl⟩ := filter_eq_ok_iff.mp second
    refine ⟨fun a member => and_answers_iff.mpr ⟨answers a member, fun holds => ?_⟩, rfl⟩
    exact later a (List.mem_filter.mpr ⟨member, holds⟩)

/-- The same members are kept in any order, unless one of them has no answer. -/
theorem concur_filter_perm (h : as.Perm bs) : Concur List.Perm (filter p as) (filter p bs) := by
  have through {as bs : List α} (h : as.Perm bs) {kept : List α} (found : filter p as = .ok kept) :
      ∃ others, filter p bs = .ok others ∧ kept.Perm others := by
    obtain ⟨answers, rfl⟩ := filter_eq_ok_iff.mp found
    exact ⟨_, filter_eq_ok_iff.mpr ⟨fun a member => answers a (h.mem_iff.mpr member), rfl⟩,
      h.filter _⟩
  refine .of_ok (fun kept found => through h found) fun others found => ?_
  exact (through h.symm found).imp fun _ found => found.1

theorem any_perm (h : as.Perm bs) (answers : ∀ a ∈ as, ∃ b, p a = .ok b) :
    any p as = any p bs := by
  have told : ∀ a ∈ as, p a = .ok (p a).holds := fun a member => eq_ok_holds (answers a member)
  rw [any_eq_ok told, any_eq_ok fun a member => told a (h.mem_iff.mpr member), h.any_eq]

theorem all_perm (h : as.Perm bs) (answers : ∀ a ∈ as, ∃ b, p a = .ok b) :
    all p as = all p bs := by
  have told : ∀ a ∈ as, p a = .ok (p a).holds := fun a member => eq_ok_holds (answers a member)
  rw [all_eq_ok told, all_eq_ok fun a member => told a (h.mem_iff.mpr member), h.all_eq]

/-- In two orders in which all can be asked, all say yes or not all do. -/
theorem compatible_all_perm (h : as.Perm bs) : Compatible Eq (all p as) (all p bs) := by
  have same : all p as = .ok true ↔ all p bs = .ok true := by
    simp only [all_eq_yes_iff, h.mem_iff]
  intro b c left right
  rw [left, right, Except.ok.injEq, Except.ok.injEq] at same
  exact Bool.eq_iff_iff.mpr same

theorem compatible_filter (h : ∀ a ∈ as, Compatible Eq (p a) (q a)) :
    Compatible Eq (filter p as) (filter q as) := by
  intro kept others left right
  obtain ⟨answers, rfl⟩ := filter_eq_ok_iff.mp left
  obtain ⟨answers', rfl⟩ := filter_eq_ok_iff.mp right
  refine List.filter_congr fun a member => ?_
  exact h a member _ _ (eq_ok_holds (answers a member)) (eq_ok_holds (answers' a member))

end Test
end CourseAudit
