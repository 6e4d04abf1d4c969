import CourseAudit.Proofs.Alike
import CourseAudit.Proofs.Shown

/-!
What a condition looks at. Its source and property denote one part of a section, and nothing else
of the section has a say in its value, in the decision of its task or in what the task shows.
-/
namespace CourseAudit

/-- A part of a section that a condition may denote. -/
inductive Facet
  /-- A part of the section itself. -/
  | part (name : String)
  | components
  | items (source : LmsSource)
  /-- A part of the course shell, and whether there is one. -/
  | shell (name : String)
  /-- An entry of the course catalog. -/
  | course (name : String)
deriving DecidableEq, Repr

/-- The name of the part that a property is called after: small letters, with low lines for blanks
and hyphens. -/
def partName (property : String) : String :=
  String.ofList (property.toList.map fun c => if c = ' ' ∨ c = '-' then '_' else c.toLower)

/-- What a key denotes. Any name is one of components; everywhere else a property has to be one of
the standard catalog. -/
def PropertyKey.facet? (key : PropertyKey) : Option Facet :=
  let listed (facet : Facet) : Option Facet :=
    if key ∈ Catalog.standard.keys then some facet else none
  match key.group with
  | .syllabus =>
    (SyllabusSource.ofLabel? key.source).bind fun
      | .componentByName | .componentByType => some .components
      | .details =>
        listed (if key.property = "Component count" then .components
          else .part (partName key.property))
  | .lms =>
    (LmsSource.ofLabel? key.source).bind fun source =>
      listed (if source = .course then .shell (partName key.property) else .items source)
  | .attribute =>
    (AttributeSource.ofLabel? key.source).bind fun
      | .course => listed (.course (partName key.property))
      | .section => listed (.part (partName key.property))

/-- The key that a condition names, when its group type is one and its source and property are
texts. -/
def Condition.key? (c : Condition) : Option PropertyKey := do
  let group ← (GroupType.ofValue? c.groupType).toOption
  return ⟨← group, ← c.source.asText?, ← c.property.asText?⟩

/-- The part of a section that a condition denotes, when it names one. -/
def Condition.facet? (c : Condition) : Option Facet := c.key?.bind PropertyKey.facet?

/-- The items of a source; the course shell is none of the lists. -/
def Section.itemsOf (s : Section) : LmsSource → Slots LmsItem
  | .assignments => s.assignments
  | .discussions => s.discussions
  | .documents => s.documents
  | .modules => s.modules
  | .pages => s.pages
  | .quiz => s.quizzes
  | .rubrics => s.rubrics
  | .survey => s.surveys
  | .course => .own []

/-- Whether two records have the same part under a name. -/
def SamePart {R : Type} (parts : List (Part R)) (name : String) (r r' : R) : Prop :=
  (viewParts parts r).part name = (viewParts parts r').part name

/-- Whether two sections agree on a part. -/
def Facet.Agree (s u : Section) : Facet → Prop
  | .part name => SamePart Section.parts name s u
  | .components => s.components = u.components
  | .items source => s.itemsOf source = u.itemsOf source
  | .shell name => s.lmsCourse.Related (SamePart LmsCourse.parts name) u.lmsCourse
  | .course name => s.course.Related (SamePart CourseAttributes.parts name) u.course

/-- Whether two sections agree on what a condition denotes. -/
def Condition.Agree (c : Condition) (s u : Section) : Prop := ∀ facet ∈ c.facet?, facet.Agree s u

/-! ## Readers -/

variable {s u : Section} {notes others : List (String × Value)}

/-- Whether all that a reader looks at is the same in two sections. -/
def Reader.Same (s u : Section) : Reader → Prop
  | .field get => get s = get u
  | .componentCount | .componentOfName | .componentOfType => s.components = u.components
  | .measure items _ => items s = items u
  | .shell get => s.lmsCourse.Related (fun a b => get a = get b) u.lmsCourse
  | .courseEntry get => s.course.Related (fun a b => get a = get b) u.course

theorem Reader.Same.read {context : EvaluationContext} {rule : Option PropertyRule} {c : Condition}
    {reader : Reader} (h : reader.Same s u) :
    reader.read context rule c (.own s notes) = reader.read context rule c (.own u others) := by
  cases reader with
  | field get => exact congrArg Except.ok h
  | componentCount =>
      have components : s.components = u.components := h
      simp only [Reader.read, Slot.get, ok_bind, components]
  | componentOfName =>
      have components : s.components = u.components := h
      simp only [Reader.read, readComponent, Slot.get, ok_bind, components]
  | componentOfType =>
      have components : s.components = u.components := h
      simp only [Reader.read, readComponentType, Slot.get, ok_bind, components]
  | measure items m =>
      have same : items s = items u := h
      simp only [Reader.read, Slot.get, ok_bind, same]
  | shell get =>
      have shells : s.lmsCourse.Related (fun a b => get a = get b) u.lmsCourse := h
      simp only [Reader.read, Slot.get, ok_bind, shells.isNull]
      split
      · rfl
      · exact shells.get.map_eq fun a b same => same
  | courseEntry get =>
      have courses : s.course.Related (fun a b => get a = get b) u.course := h
      simp only [Reader.read, Slot.get, ok_bind]
      generalize s.course = course, u.course = course' at courses ⊢
      cases courses with
      | own same => exact congrArg Except.ok same
      | other v => rfl

/-- Whether a property reads nothing but the part of a record that it is called after. -/
def ReadsOwn {R : Type} (parts : List (Part R)) (property : String × (R → Value)) : Prop :=
  ∀ r r', SamePart parts (partName property.1) r r' → property.2 r = property.2 r'

theorem detailParts_readOwn : ∀ property ∈ Reader.detailParts, ReadsOwn Section.parts property := by
  simp only [Reader.detailParts, List.forall_mem_cons]
  refine ⟨?_, ?_, ?_, ?_, ?_, ?_, ?_, ?_, List.forall_mem_nil _⟩
  all_goals exact fun _ _ same => same

theorem shellParts_readOwn : ∀ property ∈ Reader.shellParts, ReadsOwn LmsCourse.parts property := by
  simp only [Reader.shellParts, List.forall_mem_cons]
  -- two parts are flags, and are put into words
  refine ⟨?_, ?_, ?_, ?_, ?_, ?_, ?_, ?_, ?_, ?_, List.forall_mem_nil _⟩
  case refine_4 | refine_9 => exact fun _ _ same => congrArg (worded · "Yes" "No") same
  all_goals exact fun _ _ same => same

theorem courseParts_readOwn :
    ∀ property ∈ Reader.courseParts, ReadsOwn CourseAttributes.parts property := by
  simp only [Reader.courseParts, List.forall_mem_cons]
  refine ⟨?_, ?_, ?_, ?_, ?_, ?_, ?_, ?_, List.forall_mem_nil _⟩
  all_goals exact fun _ _ same => same

theorem sectionParts_readOwn :
    ∀ property ∈ Reader.sectionParts, ReadsOwn Section.parts property := by
  simp only [Reader.sectionParts, List.forall_mem_cons]
  refine ⟨?_, ?_, ?_, ?_, ?_, ?_, ?_, ?_, ?_, List.forall_mem_nil _⟩
  all_goals exact fun _ _ same => same

/-- The lists of items are those of their sources, and none of them is the course shell. -/
theorem itemLists_own : ∀ list ∈ Reader.itemLists,
    list.2.1 = (·.itemsOf list.1) ∧ list.1 ≠ .course := by
  simp only [Reader.itemLists, List.forall_mem_cons]
  refine ⟨?_, ?_, ?_, ?_, ?_, ?_, ?_, ?_, List.forall_mem_nil _⟩
  all_goals exact ⟨rfl, by decide⟩

/-- Every property with a reader of its own is one of the standard catalog. -/
theorem keys_listed : ∀ key ∈ Reader.table.map (·.1), key ∈ Catalog.standard.keys := by
  decide +kernel

theorem detailParts_plain : ∀ name ∈ Reader.detailParts.map (·.1), name ≠ "Component count" := by
  decide +kernel

/-- Whether a reader looks at nothing but what its key denotes. -/
def Reader.IsLocal (key : PropertyKey) (reader : Reader) : Prop :=
  ∃ facet, key.facet? = some facet ∧ ∀ s u, facet.Agree s u → reader.Same s u

section Listed

variable {property : String}

theorem facet?_details
    (listed : ⟨.syllabus, SyllabusSource.details.label, property⟩ ∈ Catalog.standard.keys) :
    PropertyKey.facet? ⟨.syllabus, SyllabusSource.details.label, property⟩ =
      some (if property = "Component count" then .components else .part (partName property)) := by
  have source : SyllabusSource.ofLabel? SyllabusSource.details.label = some .details := by decide
  simp only [PropertyKey.facet?, source, Option.bind_some, if_pos listed]

theorem facet?_lms {source : LmsSource}
    (listed : ⟨.lms, source.label, property⟩ ∈ Catalog.standard.keys) :
    PropertyKey.facet? ⟨.lms, source.label, property⟩ =
      some (if source = .course then .shell (partName property) else .items source) := by
  have named : LmsSource.ofLabel? source.label = some source := by
    cases source <;> decide
  simp only [PropertyKey.facet?, named, Option.bind_some, if_pos listed]

theorem facet?_course
    (listed : ⟨.attribute, AttributeSource.course.label, property⟩ ∈ Catalog.standard.keys) :
    PropertyKey.facet? ⟨.attribute, AttributeSource.course.label, property⟩ =
      some (.course (partName property)) := by
  have source : AttributeSource.ofLabel? AttributeSource.course.label = some .course := by decide
  simp only [PropertyKey.facet?, source, Option.bind_some, if_pos listed]

theorem facet?_section
    (listed : ⟨.attribute, AttributeSource.section.label, property⟩ ∈ Catalog.standard.keys) :
    PropertyKey.facet? ⟨.attribute, AttributeSource.section.label, property⟩ =
      some (.part (partName property)) := by
  have source : AttributeSource.ofLabel? AttributeSource.section.label = some .section := by decide
  simp only [PropertyKey.facet?, source, Option.bind_some, if_pos listed]

end Listed

/-- No entry of the table reads anything but what its key denotes. -/
theorem isLocal_of_mem_table : ∀ entry ∈ Reader.table, entry.2.IsLocal entry.1 := by
  have denoted := Reader.forall_table
    (P := fun key reader => key ∈ Catalog.standard.keys → reader.IsLocal key)
  refine fun entry member => denoted ?_ ?_ ?_ ?_ ?_ ?_ entry member
    (keys_listed entry.1 (List.mem_map_of_mem member))
  · intro part inside listed
    refine ⟨_, facet?_details listed, fun s u agree => ?_⟩
    rw [if_neg (detailParts_plain part.1 (List.mem_map_of_mem inside))] at agree
    exact detailParts_readOwn part inside s u agree
  · exact fun listed => ⟨.components, facet?_details listed, fun s u agree => agree⟩
  · intro list inside part _ listed
    obtain ⟨own, notShell⟩ := itemLists_own list inside
    refine ⟨_, facet?_lms listed, fun s u agree => ?_⟩
    rw [if_neg notShell] at agree
    rw [own]
    exact agree
  · intro part inside listed
    refine ⟨_, facet?_lms listed, fun s u agree => ?_⟩
    rw [if_pos rfl] at agree
    exact Slot.Related.imp agree (shellParts_readOwn part inside)
  · intro part inside listed
    exact ⟨_, facet?_course listed, fun s u agree =>
      Slot.Related.imp agree (courseParts_readOwn part inside)⟩
  · intro part inside listed
    exact ⟨_, facet?_section listed, fun s u agree => sectionParts_readOwn part inside s u agree⟩

theorem isLocal_of_ofKey? {key : PropertyKey} {reader : Reader}
    (h : Reader.ofKey? key = some reader) : reader.IsLocal key :=
  Reader.of_ofKey? (P := fun key reader => reader.IsLocal key) isLocal_of_mem_table
    (fun _ => ⟨.components, rfl, fun _ _ agree => agree⟩)
    (fun _ => ⟨.components, rfl, fun _ _ agree => agree⟩) h

/-! ## Conditions and tasks -/

variable {catalog : Catalog} {context : EvaluationContext} {c : Condition} {t : PlanTask}

theorem Value.asText?_of_key {v : Value} {s : String} (h : v.key = .ok (some s)) :
    v.asText? = some s := by
  unfold key at h
  split at h
  · exact Except.ok.inj h
  · cases h

/-- A condition that a catalog has a rule for names a key, and is read by the reader of the key. -/
theorem Condition.key?_of_ruleOf {rule : PropertyRule} (h : catalog.ruleOf c = .ok (some rule)) :
    ∃ key, c.key? = some key ∧ catalog.rule? key.group key.source key.property = some rule ∧
      Reader.ofCondition? c = .ok (Reader.ofKey? key) := by
  obtain ⟨group, parsed, h⟩ := bind_eq_ok_iff.mp h
  cases group with
  | none => cases h
  | some group =>
      dsimp only at h
      split at h
      · obtain ⟨source, sourced, h⟩ := bind_eq_ok_iff.mp h
        obtain ⟨property, named, h⟩ := bind_eq_ok_iff.mp h
        split at h
        · next source property _ =>
            refine ⟨⟨group, source, property⟩, ?_, Except.ok.inj h, ?_⟩
            · simp [key?, parsed, Except.toOption, Value.asText?_of_key sourced,
                Value.asText?_of_key named]
            · simp only [Reader.ofCondition?, parsed, sourced, named, ok_bind]
              rfl
        · cases h
      · cases h

/-- The value of a condition comes from what the condition denotes. -/
theorem Condition.Agree.resolve_eq (agree : c.Agree s u) (catalog : Catalog)
    (context : EvaluationContext) (notes others : List (String × Value)) :
    c.resolve catalog context (.own s notes) = c.resolve catalog context (.own u others) := by
  refine resolve_through rfl rfl (fun _ => rfl) fun rule reader ruled reading => ?_
  obtain ⟨key, named, -, reads⟩ := key?_of_ruleOf ruled
  have found := Except.ok.inj (reads.symm.trans reading)
  obtain ⟨facet, denoted, same⟩ := isLocal_of_ofKey? found
  have meant : c.facet? = some facet := by
    rw [facet?, named, Option.bind_some, denoted]
  exact (same s u (agree facet meant)).read

/-- A list is related to itself when each of its records is. -/
theorem Slots.related_self {R : Type} {P : R → R → Prop} {slots : Slots R}
    (h : ∀ r ∈ slots.records, P r r) : slots.Related P slots := by
  cases slots with
  | other v => exact .other v
  | own members =>
      refine .own (List.forall₂_same.mpr ?_)
      intro slot inside
      cases slot with
      | other v => exact .other v
      | own r notes => exact .own (h r (List.mem_filterMap.mpr ⟨_, inside, rfl⟩))

/-- A task is related to itself by what is true of each of its conditions. -/
theorem PlanTask.related_self {P : Condition → Prop}
    (h : ∀ c ∈ t.groupedConditions.flatten, P c) : t.Related (fun c d => c = d ∧ P c) t where
  groups := by
    apply Slots.related_self
    intro g group
    apply Slots.related_self
    intro c condition
    have listed : c ∈ t.groupedConditions.flatten :=
      List.mem_flatten.mpr ⟨_, List.mem_map_of_mem group, condition⟩
    exact ⟨rfl, h c listed⟩
  displayType := rfl
  onPass := rfl
  onFailure := rfl

/-- Sections that agree on what the conditions of a task denote come to the same outcome. -/
theorem evaluate_eq_of_agree (catalog : Catalog) (context : EvaluationContext) (t : PlanTask)
    (s u : Section) (notes others : List (String × Value))
    (agree : ∀ c ∈ t.groupedConditions.flatten, c.Agree s u) :
    t.evaluate catalog context (.own s notes) = t.evaluate catalog context (.own u others) := by
  have resolved (c : Condition) (h : c.Agree s u) := h.resolve_eq catalog context notes others
  apply (PlanTask.related_self agree).evaluate
  · exact .ok trivial
  · rintro c d ⟨rfl, same⟩
    rw [Condition.holds, Condition.holds, Condition.decide, Condition.decide, resolved c same]
  · rintro c d ⟨rfl, same⟩ type
    rw [Condition.rendered, Condition.rendered, resolved c same]

/-- A task that asks for more than one quiz in a cross-listed course. -/
def quizzesInCrossListed : PlanTask where
  groups := .ofList [{ conditions := .ofList [
    { groupType := .choice (.group .lms), source := .text "Quiz", property := .text "Total Count",
      operator := .text "Is greater than", value := .int 1 },
    { groupType := .choice (.group .lms), source := .text "Course",
      property := .text "Cross-listed", operator := .text "Is", value := .text "Yes" }] }]

def twoQuizzes : Slots LmsItem := .ofList [{ name := .text "Light" }, { name := .text "Lenses" }]

def optics : Section where
  title := .text "Optics"
  quizzes := twoQuizzes
  lmsCourse := ({ crossListed := .bool true, name := .text "Optics" } : LmsCourse)

/-- A section that has nothing in common with the other one but its quizzes and that its course is
cross-listed. -/
def opticsForPoets : Section where
  title := .text "Optics for poets"
  quizzes := twoQuizzes
  discussions := .ofList [{ name := .text "Rainbows" }]
  lmsCourse := ({ crossListed := .bool true, studentCount := .int 9 } : LmsCourse)
  components := .other (.int 0)

theorem evaluate_optics :
    (∀ c ∈ quizzesInCrossListed.groupedConditions.flatten, c.Agree optics opticsForPoets) ∧
      quizzesInCrossListed.evaluate Catalog.standard (.ofDay ⟨2025, 10, 1, by decide⟩) optics =
        quizzesInCrossListed.evaluate Catalog.standard (.ofDay ⟨2025, 10, 1, by decide⟩)
          opticsForPoets ∧
      ((quizzesInCrossListed.evaluate Catalog.standard (.ofDay ⟨2025, 10, 1, by decide⟩)
        opticsForPoets).toOption.bind id).map (·.passes) = some true := by
  have agree : ∀ c ∈ quizzesInCrossListed.groupedConditions.flatten,
      c.Agree optics opticsForPoets := by
    have facets : quizzesInCrossListed.groupedConditions.flatten.map (·.facet?) =
        [some (.items .quiz), some (.shell "cross_listed")] := by decide +kernel
    intro c member facet denoted
    have listed := List.mem_map_of_mem (f := Condition.facet?) member
    rw [facets, show c.facet? = some facet from denoted] at listed
    simp only [List.mem_cons, Option.some.injEq, List.not_mem_nil, or_false] at listed
    rcases listed with rfl | rfl
    · exact rfl
    · exact .own rfl
  refine ⟨agree, ?_, by decide +kernel⟩
  exact evaluate_eq_of_agree Catalog.standard (.ofDay ⟨2025, 10, 1, by decide⟩)
    quizzesInCrossListed optics opticsForPoets [] [] agree

end CourseAudit
