import CourseAudit.Evaluation.Reader
import CourseAudit.Proofs.Fault

/-!
Going through the readers of properties: what holds of every part of their table holds of the
reader that a key finds, and conditions of one key are resolved alike when it reads them alike.
-/
namespace CourseAudit

theorem mem_of_lookup {K A : Type} [BEq K] [LawfulBEq K] {entries : List (K × A)} {k : K} {a : A}
    (h : entries.lookup k = some a) : (k, a) ∈ entries := by
  obtain ⟨before, behind, rfl, -⟩ := List.lookup_eq_some_iff.mp h
  exact List.mem_append_right _ List.mem_cons_self

namespace Reader

variable {P : PropertyKey → Reader → Prop}

theorem forall_ofParts {A : Type} {group : GroupType} {source : String} {reader : A → Reader}
    {parts : List (String × A)} (h : ∀ part ∈ parts, P ⟨group, source, part.1⟩ (reader part.2)) :
    ∀ entry ∈ ofParts group source reader parts, P entry.1 entry.2 := by
  intro entry member
  obtain ⟨part, inside, rfl⟩ := List.mem_map.mp member
  exact h part inside

/-- The table is made of the properties of five sources, of the lists of items and of the number of
components. -/
theorem forall_table
    (details : ∀ part ∈ detailParts,
      P ⟨.syllabus, SyllabusSource.details.label, part.1⟩ (.field part.2))
    (count : P ⟨.syllabus, SyllabusSource.details.label, "Component count"⟩ .componentCount)
    (lists : ∀ list ∈ itemLists, ∀ part ∈ list.2.2,
      P ⟨.lms, list.1.label, part.1⟩ (.measure list.2.1 part.2))
    (shell : ∀ part ∈ shellParts, P ⟨.lms, LmsSource.course.label, part.1⟩ (.shell part.2))
    (course : ∀ part ∈ courseParts,
      P ⟨.attribute, AttributeSource.course.label, part.1⟩ (.courseEntry part.2))
    (own : ∀ part ∈ sectionParts,
      P ⟨.attribute, AttributeSource.section.label, part.1⟩ (.field part.2)) :
    ∀ entry ∈ table, P entry.1 entry.2 := by
  simp only [table, List.forall_mem_append, List.forall_mem_singleton]
  refine ⟨⟨⟨⟨⟨forall_ofParts details, count⟩, ?_⟩, forall_ofParts shell⟩, forall_ofParts course⟩,
    forall_ofParts own⟩
  intro entry member
  obtain ⟨list, inside, member⟩ := List.mem_flatMap.mp member
  exact forall_ofParts (lists list inside) entry member

/-- A reader of a whole source reads components. -/
theorem of_ofSource? {reader : Reader} {group : GroupType} {source : String} (property : String)
    (byName : P ⟨.syllabus, SyllabusSource.componentByName.label, property⟩ .componentOfName)
    (byType : P ⟨.syllabus, SyllabusSource.componentByType.label, property⟩ .componentOfType)
    (h : ofSource? group source = some reader) : P ⟨group, source, property⟩ reader := by
  unfold ofSource? at h
  split at h
  · next named =>
      obtain ⟨rfl, rfl⟩ := named
      cases h
      exact byName
  · split at h
    · next typed =>
        obtain ⟨rfl, rfl⟩ := typed
        cases h
        exact byType
    · cases h

/-- The reader of a key is one of the table, or reads components. -/
theorem of_ofKey? {key : PropertyKey} {reader : Reader}
    (listed : ∀ entry ∈ table, P entry.1 entry.2)
    (byName : ∀ property,
      P ⟨.syllabus, SyllabusSource.componentByName.label, property⟩ .componentOfName)
    (byType : ∀ property,
      P ⟨.syllabus, SyllabusSource.componentByType.label, property⟩ .componentOfType)
    (h : ofKey? key = some reader) : P key reader := by
  unfold ofKey? at h
  split at h
  · next found =>
      cases h
      exact listed (key, reader) (mem_of_lookup found)
  · exact of_ofSource? key.property (byName key.property) (byType key.property) h

end Reader

variable {catalog : Catalog} {context : EvaluationContext} {c d : Condition} {s s' : Slot Section}

/-- Two conditions of one key are resolved alike when every reader reads them alike. -/
theorem Condition.resolve_through {P : Except Fault Value → Except Fault Value → Prop}
    (ruled : catalog.ruleOf d = catalog.ruleOf c)
    (reading : Reader.ofCondition? d = Reader.ofCondition? c) (refl : ∀ x, P x x)
    (each : ∀ rule reader, catalog.ruleOf c = .ok (some rule) →
      Reader.ofCondition? c = .ok (some reader) →
      P (reader.read context (some rule) d s') (reader.read context (some rule) c s)) :
    P (d.resolve catalog context s') (c.resolve catalog context s) := by
  unfold Condition.resolve
  rw [ruled, reading]
  cases rules : catalog.ruleOf c with
  | error fault => exact refl _
  | ok rule =>
      cases rule with
      | none => exact refl _
      | some rule =>
          cases readers : Reader.ofCondition? c with
          | error fault => exact refl _
          | ok reader =>
              cases reader with
              | none => exact refl _
              | some reader => exact each rule reader rules readers

end CourseAudit
