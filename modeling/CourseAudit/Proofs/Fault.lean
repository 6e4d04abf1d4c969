import CourseAudit.Fault
import Mathlib.Data.List.Forall2

/-!
Laws of computations that may fail. A chain succeeds when each of its links does, and the questions
of a list that all have answers are answered like plain ones, in whatever order they are asked.
-/
namespace CourseAudit

section Chains

variable {ε α β : Type}

theorem bind_eq_ok_iff {x : Except ε α} {f : α → Except ε β} {b : β} :
    x >>= f = .ok b ↔ ∃ a, x = .ok a ∧ f a = .ok b := by
  cases x with
  | error e => simp [bind, Except.bind]
  | ok a => simp [bind, Except.bind]

theorem map_eq_ok_iff {x : Except ε α} {f : α → β} {b : β} :
    x.map f = .ok b ↔ ∃ a, x = .ok a ∧ f a = b := by
  cases x with
  | error e => simp [Except.map]
  | ok a => simp [Except.map]

theorem map_total {x : Except ε α} (f : α → β) (h : ∃ a, x = .ok a) : ∃ b, x.map f = .ok b := by
  obtain ⟨a, rfl⟩ := h
  exact ⟨f a, rfl⟩

@[simp] theorem ok_bind (a : α) (f : α → Except ε β) : (Except.ok a >>= f) = f a := rfl

/-- Going through a list succeeds when it does at every member. -/
theorem mapM_eq_ok_iff {f : α → Except ε β} {as : List α} {bs : List β} :
    as.mapM f = .ok bs ↔ List.Forall₂ (fun a b => f a = .ok b) as bs := by
  induction as generalizing bs with
  | nil => cases bs <;> simp [pure, Except.pure]
  | cons a as ih =>
      rw [List.mapM_cons, bind_eq_ok_iff]
      constructor
      · rintro ⟨b, hb, h⟩
        obtain ⟨rest, hr, h⟩ := bind_eq_ok_iff.mp h
        cases h
        exact .cons hb (ih.mp hr)
      · intro h
        cases h with
        | cons hb hr => exact ⟨_, hb, bind_eq_ok_iff.mpr ⟨_, ih.mpr hr, rfl⟩⟩

theorem mapM_total {f : α → Except ε β} {as : List α} (h : ∀ a ∈ as, ∃ b, f a = .ok b) :
    ∃ bs, as.mapM f = .ok bs := by
  induction as with
  | nil => exact ⟨[], rfl⟩
  | cons a as ih =>
      obtain ⟨b, hb⟩ := h a List.mem_cons_self
      obtain ⟨bs, hr⟩ := ih fun a member => h a (List.mem_cons_of_mem _ member)
      exact ⟨b :: bs, by rw [List.mapM_cons, hb, hr]; rfl⟩

/-- In related lists every member has one that it is related to. -/
theorem exists_of_forall₂ {R : α → β → Prop} {as : List α} {bs : List β}
    (h : List.Forall₂ R as bs) {a : α} (member : a ∈ as) : ∃ b ∈ bs, R a b := by
  induction h with
  | nil => exact absurd member List.not_mem_nil
  | cons first _ ih =>
      rcases List.mem_cons.mp member with rfl | later
      · exact ⟨_, List.mem_cons_self, first⟩
      · obtain ⟨b, found, related⟩ := ih later
        exact ⟨b, List.mem_cons_of_mem _ found, related⟩

theorem eq_ok_of_mapM {f : α → Except ε β} {as : List α} {bs : List β} (h : as.mapM f = .ok bs)
    {a : α} (member : a ∈ as) : ∃ b ∈ bs, f a = .ok b :=
  exists_of_forall₂ (mapM_eq_ok_iff.mp h) member

theorem exists_of_mapM {f : α → Except ε β} {as : List α} {bs : List β} (h : as.mapM f = .ok bs)
    {b : β} (member : b ∈ bs) : ∃ a ∈ as, f a = .ok b :=
  exists_of_forall₂ (mapM_eq_ok_iff.mp h).flip member

theorem eq_map_of_mapM {f : α → Except ε β} {g : α → β} {as : List α} {bs : List β}
    (h : as.mapM f = .ok bs) (given : ∀ a b, f a = .ok b → b = g a) : bs = as.map g := by
  have pairs := mapM_eq_ok_iff.mp h
  clear h
  induction pairs with
  | nil => rfl
  | cons hb _ ih => rw [List.map_cons, ← given _ _ hb, ← ih]

theorem mapM_eq_ok_map {f : α → Except ε β} {g : α → β} {as : List α}
    (h : ∀ a ∈ as, f a = .ok (g a)) : as.mapM f = .ok (as.map g) := by
  rw [mapM_eq_ok_iff, List.forall₂_map_right_iff, List.forall₂_same]
  exact h

end Chains

namespace Test

variable {α : Type}

theorem or_eq_no_iff {t u : Test} : t.or u = .ok false ↔ t = .ok false ∧ u = .ok false := by
  rcases t with e | (_ | _) <;> simp [Test.or]

@[simp] theorem or_ok (b c : Bool) : Test.or (.ok b) (.ok c) = .ok (b || c) := by
  cases b <;> rfl

@[simp] theorem and_ok (b c : Bool) : Test.and (.ok b) (.ok c) = .ok (b && c) := by
  cases b <;> rfl

/-- The first of two questions is answered where both together are. -/
theorem of_and {t u : Test} {b : Bool} (h : t.and u = .ok b) : ∃ c, t = .ok c := by
  cases t with
  | error e => cases h
  | ok c => exact ⟨c, rfl⟩

theorem and_total {t u : Test} (ht : ∃ b, t = .ok b) (hu : ∃ b, u = .ok b) :
    ∃ b, t.and u = .ok b := by
  obtain ⟨b, rfl⟩ := ht
  obtain ⟨c, rfl⟩ := hu
  exact ⟨b && c, and_ok b c⟩

@[simp] theorem holds_ok (b : Bool) : Test.holds (.ok b) = b := rfl

/-- Saying yes early is saying it at all. -/
theorem ite_yes (b c : Bool) : (if b = true then .ok true else .ok c : Test) = .ok (b || c) := by
  cases b <;> rfl

theorem holds_eq_true_iff {t : Test} : t.holds = true ↔ t = .ok true := by
  rcases t with e | (_ | _) <;> simp [holds]

/-- A question with an answer is answered by whether it holds. -/
theorem eq_ok_holds {t : Test} (h : ∃ b, t = .ok b) : t = .ok t.holds := by
  obtain ⟨b, rfl⟩ := h
  rfl

/-- Nobody says yes only when everybody has been asked. -/
theorem any_eq_no_iff {p : α → Test} {as : List α} :
    any p as = .ok false ↔ ∀ a ∈ as, p a = .ok false := by
  induction as with
  | nil => simp [any]
  | cons a as ih => simp [any, or_eq_no_iff, ih]

theorem any_eq_ok {p : α → Test} {q : α → Bool} {as : List α} (h : ∀ a ∈ as, p a = .ok (q a)) :
    any p as = .ok (as.any q) := by
  induction as with
  | nil => rfl
  | cons a as ih =>
      have first := h a List.mem_cons_self
      have rest := ih fun b member => h b (List.mem_cons_of_mem a member)
      simp [any, first, rest]

theorem all_eq_ok {p : α → Test} {q : α → Bool} {as : List α} (h : ∀ a ∈ as, p a = .ok (q a)) :
    all p as = .ok (as.all q) := by
  induction as with
  | nil => rfl
  | cons a as ih =>
      have first := h a List.mem_cons_self
      have rest := ih fun b member => h b (List.mem_cons_of_mem a member)
      simp [all, first, rest]

theorem any_map {β : Type} (p : β → Test) (f : α → β) (as : List α) :
    any p (as.map f) = any (fun a => p (f a)) as := by
  induction as with
  | nil => rfl
  | cons a as ih => exact congrArg ((p (f a)).or) ih

theorem all_map {β : Type} (p : β → Test) (f : α → β) (as : List α) :
    all p (as.map f) = all (fun a => p (f a)) as := by
  induction as with
  | nil => rfl
  | cons a as ih => exact congrArg ((p (f a)).and) ih

end Test
end CourseAudit
