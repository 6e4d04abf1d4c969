import CourseAudit.Proofs.Locality
import CourseAudit.Proofs.Reordering
import Mathlib.Data.List.Find
import Mathlib.Data.List.Nodup

/-!
Sections whose lists are in another order. A count, a mean or a presence does not depend on the
order of what is counted, and neither does the outcome of a task, unless it adds up points.
-/
namespace CourseAudit

/-! ## Sections -/

/-- A number that a mean can be taken of, or no number at all. -/
def Value.IsBounded (v : Value) : Prop := ∀ x, v = .float x → x.isFinite = true

/-- A component that has a name, and at most a text for its type. -/
structure Component.WellTyped (p : Component) : Prop where
  name : p.name.IsText
  type : p.type = .null ∨ p.type.IsText

/-- Items and components are records, whatever else stands in the fields of a section. -/
structure Section.WellTyped (s : Section) : Prop where
  items : ∀ source, (s.itemsOf source).Holds fun _ => True
  components : s.components.Holds Component.WellTyped

structure LmsItem.HasBoundedMarks (i : LmsItem) : Prop where
  averageScore : i.averageScore.IsBounded
  completionRate : i.completionRate.IsBounded

def Section.HasBoundedMarks (s : Section) : Prop :=
  ∀ source, ∀ i ∈ (s.itemsOf source).records, i.HasBoundedMarks

def Section.HasDistinctNames (s : Section) : Prop :=
  (s.components.records.map (·.name.asText?)).Nodup

/-- A section with the lists of another one. -/
def Section.withLists (s u : Section) : Section :=
  { s with
    components := u.components
    assignments := u.assignments
    discussions := u.discussions
    documents := u.documents
    modules := u.modules
    pages := u.pages
    quizzes := u.quizzes
    rubrics := u.rubrics
    surveys := u.surveys }

/-- A section that differs from another one in the order of its lists. Components are only in
another order when their names are distinct. -/
structure Section.Rearranges (s u : Section) : Prop where
  items : ∀ source, (s.itemsOf source).Reorders (u.itemsOf source)
  components : s.components = u.components ∨
    s.components.Reorders u.components ∧ s.HasDistinctNames
  others : u = s.withLists u

open Payload in
theorem Component.wellTyped_ofPayload {v : Value} (h : (Form.record componentFields).Fits v) :
    (ofPayload v).WellTyped where
  name := Value.isText_of_fits (h.part "name" rfl)
  type := (h.part "type" rfl).imp_right Value.isText_of_fits

open Payload in
/-- Every section that has been read from a payload is well typed. -/
theorem Section.wellTyped_ofPayload {v : Value} (h : sectionRecord.Fits v) :
    (ofPayload v).WellTyped where
  items source := by
    cases source
    case course => exact fun _ member => absurd member List.not_mem_nil
    all_goals exact Form.Fits.holds (.inl (h.part _ rfl)) fun _ _ => trivial
  components :=
    Form.Fits.holds (.inl (h.part "components" rfl)) fun _ => Component.wellTyped_ofPayload

/-! ## Measures -/

variable {context : EvaluationContext} {c : Condition} {values others : List Value}

theorem exactUnits_bounded {v : Value} (h : v.IsBounded) : exactUnits v ≠ .ok none := by
  cases v with
  | float x =>
      cases x with
      | finite s m e => simp [exactUnits]
      | _ => cases h _ rfl
  | _ => simp [exactUnits, Value.asInt?]

/-- A mean is taken of exact numbers, which can be added in any order. -/
theorem concur_meanOf (h : values.Perm others) (bounded : ∀ v ∈ values, v.IsBounded) :
    Concur Eq (meanOf values) (meanOf others) := by
  -- without an infinite number the sum that depends on the order is never taken
  have finite (units : List (Option Int)) (found : values.mapM exactUnits = .ok units) :
      units.contains none = false := by
    rw [List.contains_eq_mem, decide_eq_false_iff_not]
    intro member
    obtain ⟨v, inside, given⟩ := exists_of_mapM found member
    exact exactUnits_bounded (bounded v inside) given
  refine ((concur_mapM_perm h).left finite).bind fun units units' related => ?_
  obtain ⟨reordered, finite⟩ := related
  have finite' : units'.contains none = false := by
    rw [← finite, Bool.eq_iff_iff, List.contains_iff_mem, List.contains_iff_mem, reordered.mem_iff]
  have total := (reordered.filterMap id).foldl_eq (f := fun x y : Int => x + y) 0
  rw [finite, finite', h.length_eq, h.any_eq, total]
  exact .refl _

theorem concur_meanOfPresent (h : values.Perm others) (bounded : ∀ v ∈ values, v.IsBounded) :
    Concur Eq (meanOfPresent values) (meanOfPresent others) := by
  unfold meanOfPresent
  have present := h.filter (!·.isNull)
  have bounded : ∀ v ∈ values.filter (!·.isNull), v.IsBounded := fun v member =>
    bounded v (List.mem_of_mem_filter member)
  generalize values.filter (!·.isNull) = left, others.filter (!·.isNull) = right at *
  cases left with
  | nil =>
      rw [present.nil_eq]
      exact .refl _
  | cons v vs =>
      cases right with
      | nil => cases present.eq_nil
      | cons w ws => exact concur_meanOf present bounded

section Kept

variable {kept left : List (Slot LmsItem)}

theorem concur_mean_of_marks {mark : LmsItem → Value} (h : kept.Perm left)
    (bounded : ∀ slot ∈ kept, slot.Holds fun i => (mark i).IsBounded) :
    Concur Eq (kept.mapM (fun i => i.get.map mark) >>= meanOfPresent)
      (left.mapM (fun i => i.get.map mark) >>= meanOfPresent) := by
  have given (marks : List Value) (found : kept.mapM (fun i => i.get.map mark) = .ok marks) :
      ∀ v ∈ marks, v.IsBounded := by
    intro v member
    obtain ⟨slot, inside, taken⟩ := exists_of_mapM found member
    obtain ⟨i, record, bound⟩ := (bounded slot inside).get
    rw [record] at taken
    cases taken
    exact bound
  exact ((concur_mapM_perm h).left given).bind fun _ _ related =>
    concur_meanOfPresent related.1 related.2

/-- Nothing but a sum of points, which is rounded as it is added up, depends on the order. -/
theorem concur_measure {m : Measure} (plain : m ≠ .points) (h : kept.Perm left)
    (marks : ∀ slot ∈ kept, slot.Holds LmsItem.HasBoundedMarks) :
    Concur Eq (m.of context c kept) (m.of context c left) := by
  cases m with
  | points => exact absurd rfl plain
  | count => exact .ok (by rw [h.length_eq])
  | percent =>
      simp only [Measure.of, h.length_eq]
      exact .refl _
  | averageScore =>
      refine concur_mean_of_marks h fun slot member => ?_
      exact (marks slot member).imp fun _ bounded => bounded.averageScore
  | completionRate =>
      refine concur_mean_of_marks h fun slot member => ?_
      exact (marks slot member).imp fun _ bounded => bounded.completionRate
  | inUse =>
      have answers : ∀ slot ∈ kept, ∃ b, slot.test (fun i => .ok i.inUse.isSet) = .ok b := by
        intro slot member
        obtain ⟨i, record, -⟩ := (marks slot member).get
        exact ⟨i.inUse.isSet, by rw [Slot.test, record, ok_bind]⟩
      simp only [Measure.of, Test.any_perm h answers]
      exact .refl _

end Kept

/-! ## Components -/

theorem Value.asText?_of_same {v w : Value} (text : v.IsText) (h : v.same w = true) :
    w.asText? = v.asText? := by
  obtain ⟨t, text⟩ := text
  cases v with
  | text s => cases w <;> simp_all [same, sameScalar, asInt?, asText?]
  | choice ch => cases w <;> simp_all [same, sameScalar, asInt?, asText?]
  | _ => cases text

section Components

variable {slots others : List (Slot Component)} {name : Value}

theorem findComponent_eq_find? (h : ∀ slot ∈ slots, slot.Holds Component.WellTyped) :
    findComponent name slots = .ok ((Slots.own slots).records.find? (·.name.same name)) := by
  induction slots with
  | nil => rfl
  | cons slot rest ih =>
      rw [List.forall_mem_cons] at h
      cases slot with
      | other v => exact False.elim h.1
      | own p notes =>
          change (if p.name.same name then _ else findComponent name rest) =
            Except.ok ((p :: (Slots.own rest).records).find? _)
          rw [ih h.2, List.find?_cons]
          cases p.name.same name <;> rfl

/-- Of distinct names only one is the name that is looked for. -/
theorem findComponent_perm (name : Value) (h : slots.Perm others)
    (typed : ∀ slot ∈ slots, slot.Holds Component.WellTyped)
    (distinct : ((Slots.own slots).records.map (·.name.asText?)).Nodup) :
    findComponent name others = findComponent name slots := by
  rw [findComponent_eq_find? typed,
    findComponent_eq_find? fun slot member => typed slot (h.mem_iff.mpr member)]
  refine congrArg Except.ok (List.find?_eq_find?_of_perm (h.filterMap _) ?_).symm
  have records : (Slots.own slots).Holds Component.WellTyped := typed
  have texts : ∀ p ∈ (Slots.own slots).records, p.name.IsText := fun p member =>
    (records.records p member).name
  rintro p ⟨inside, found⟩ q ⟨inside', found'⟩
  refine List.inj_on_of_nodup_map distinct inside inside' ?_
  exact (Value.asText?_of_same (texts p inside) found).symm.trans
    (Value.asText?_of_same (texts q inside') found')

theorem isOfType_total {p : Component} (h : p.WellTyped) (wanted : String) :
    ∃ b, p.isOfType wanted = .ok b := by
  unfold Component.isOfType
  split
  · next set =>
      rcases h.type with null | ⟨t, text⟩
      · rw [null] at set
        cases set
      · rw [text]
        exact ⟨_, rfl⟩
  · exact ⟨_, rfl⟩

theorem any_isOfType_perm (h : slots.Perm others)
    (typed : ∀ slot ∈ slots, slot.Holds Component.WellTyped) (wanted : String) :
    Test.any (Slot.test (Component.isOfType wanted)) others =
      Test.any (Slot.test (Component.isOfType wanted)) slots := by
  refine (Test.any_perm h fun slot member => ?_).symm
  obtain ⟨p, record, typed⟩ := (typed slot member).get
  rw [Slot.test, record, ok_bind]
  exact isOfType_total typed wanted

end Components

/-! ## Readers -/

variable {s u : Section} {notes noted : List (String × Value)} {rule : Option PropertyRule}

/-- Whether a reader finds in a rearranged section what it finds in the section. Points are only
added up under the name of their total. -/
def Reader.Survives (s u : Section) (key : PropertyKey) : Reader → Prop
  | .field get => get s = get u
  | .measure items m => (∃ source, items = (·.itemsOf source)) ∧
      (m = .points → key.group = .lms ∧ key.property = "Total Points")
  | _ => True

theorem detailParts_withLists : ∀ part ∈ Reader.detailParts, part.2 (s.withLists u) = part.2 s := by
  simp only [Reader.detailParts, List.forall_mem_cons]
  refine ⟨?_, ?_, ?_, ?_, ?_, ?_, ?_, ?_, List.forall_mem_nil _⟩
  all_goals rfl

theorem sectionParts_withLists :
    ∀ part ∈ Reader.sectionParts, part.2 (s.withLists u) = part.2 s := by
  simp only [Reader.sectionParts, List.forall_mem_cons]
  refine ⟨?_, ?_, ?_, ?_, ?_, ?_, ?_, ?_, ?_, List.forall_mem_nil _⟩
  all_goals rfl

theorem points_named : ∀ list ∈ Reader.itemLists, ∀ part ∈ list.2.2,
    part.2 = .points → part.1 = "Total Points" := by
  decide

theorem survives_of_ofKey? (h : u = s.withLists u) {key : PropertyKey} {reader : Reader}
    (found : Reader.ofKey? key = some reader) : reader.Survives s u key := by
  have same (get : Section → Value) (kept : get (s.withLists u) = get s) : get s = get u :=
    kept.symm.trans (congrArg get h.symm)
  refine Reader.of_ofKey? (P := fun key reader => reader.Survives s u key) ?_ (fun _ => trivial)
    (fun _ => trivial) found
  apply Reader.forall_table (P := fun key reader => reader.Survives s u key)
  case details => exact fun part inside => same part.2 (detailParts_withLists part inside)
  case own => exact fun part inside => same part.2 (sectionParts_withLists part inside)
  case lists =>
    intro list inside part measured
    exact ⟨⟨list.1, (itemLists_own list inside).1⟩, fun points =>
      ⟨rfl, points_named list inside part measured points⟩⟩
  case count => exact trivial
  case shell | course => exact fun _ _ => trivial

/-- A list in another order is gone through by the same slots. -/
theorem Slots.Reorders.own_perm {R : Type} {P : R → Prop} {slots others : Slots R}
    (h : slots.Reorders others) (records : slots.Holds P) :
    ∃ members left, slots = .own members ∧ others = .own left ∧ members.Perm left ∧
      ∀ slot ∈ members, slot.Holds P := by
  cases h with
  | own reordered => exact ⟨_, _, rfl, rfl, reordered, records⟩
  | other v => exact False.elim records

theorem readComponent_rearranged (h : s.components.Reorders u.components)
    (typed : s.components.Holds Component.WellTyped) (distinct : s.HasDistinctNames) :
    readComponent context rule c (.own u noted) = readComponent context rule c (.own s notes) := by
  obtain ⟨slots, others, own, own', reordered, typed⟩ := h.own_perm typed
  rw [Section.HasDistinctNames, own] at distinct
  have found := findComponent_perm c.property reordered typed distinct
  simp only [readComponent, Slot.get_own, ok_bind, own, own', Slots.members, found]

theorem readComponentType_rearranged (h : s.components.Reorders u.components)
    (typed : s.components.Holds Component.WellTyped) :
    readComponentType c (.own u noted) = readComponentType c (.own s notes) := by
  obtain ⟨slots, others, own, own', reordered, typed⟩ := h.own_perm typed
  simp only [readComponentType, Slot.get_own, ok_bind, own, own', Slots.members,
    any_isOfType_perm reordered typed]

theorem size_reordered {R : Type} {slots others : Slots R} (h : slots.Reorders others) :
    others.size = slots.size :=
  (h.members.map_eq fun _ _ reordered => reordered.length_eq).symm

/-- The components of a rearranged section are read like those of the section. -/
theorem read_components (h : s.Rearranges u) (typed : s.WellTyped) {reader : Reader}
    (kind : reader = .componentCount ∨ reader = .componentOfName ∨ reader = .componentOfType) :
    reader.read context rule c (.own u noted) = reader.read context rule c (.own s notes) := by
  rcases h.components with same | ⟨reordered, distinct⟩
  · have same : reader.Same u s := by rcases kind with rfl | rfl | rfl <;> exact same.symm
    exact same.read
  · rcases kind with rfl | rfl | rfl
    · simp only [Reader.read, Slot.get_own, ok_bind, size_reordered reordered]
    · exact readComponent_rearranged reordered typed.components distinct
    · exact readComponentType_rearranged reordered typed.components

theorem concur_read_measure (h : s.Rearranges u) (typed : s.WellTyped) (marks : s.HasBoundedMarks)
    {source : LmsSource} {m : Measure} (plain : m ≠ .points) :
    Concur Eq ((Reader.measure (·.itemsOf source) m).read context rule c (.own s notes))
      ((Reader.measure (·.itemsOf source) m).read context rule c (.own u noted)) := by
  obtain ⟨items, others, own, own', reordered, records⟩ :=
    (h.items source).own_perm (typed.items source)
  have bounded : ∀ slot ∈ items, slot.Holds LmsItem.HasBoundedMarks := by
    intro slot member
    cases slot with
    | other v => exact False.elim (records _ member)
    | own i notes =>
        refine marks source i ?_
        rw [own]
        exact List.mem_filterMap.mpr ⟨_, member, rfl⟩
  simp only [Reader.read, Slot.get_own, ok_bind, own, own', Slots.members]
  -- what is measured are items of the section, so their marks are known
  have kept (kept : List (Slot LmsItem))
      (found : filterItems context rule c.subConditions items = .ok kept) :
      ∀ slot ∈ kept, slot.Holds LmsItem.HasBoundedMarks := by
    obtain ⟨-, rfl⟩ := Test.filter_eq_ok_iff.mp found
    exact fun slot member => bounded slot (List.mem_of_mem_filter member)
  refine ((Test.concur_filter_perm reordered).left kept).bind fun _ _ related => ?_
  exact concur_measure plain related.1 related.2

/-! ## Conditions and tasks -/

/-- Whether a condition adds up the points of items. -/
def Condition.OnTotalPoints (c : Condition) : Prop :=
  ∃ source, c.key? = some ⟨.lms, source, "Total Points"⟩

/-- A condition finds the same value in a rearranged section, or fails in both. -/
theorem concur_resolve_rearranged {catalog : Catalog} (h : s.Rearranges u) (typed : s.WellTyped)
    (marks : s.HasBoundedMarks) (plain : ¬ c.OnTotalPoints) :
    Concur Eq (c.resolve catalog context (.own s notes))
      (c.resolve catalog context (.own u noted)) := by
  refine Condition.resolve_through rfl rfl .refl fun rule reader ruled reading => ?_
  obtain ⟨key, named, -, reads⟩ := Condition.key?_of_ruleOf ruled
  have found := Except.ok.inj (reads.symm.trans reading)
  have survives := survives_of_ofKey? h.others found
  cases reader with
  | field get =>
      have same : get s = get u := survives
      exact .ok same
  | componentCount =>
      rw [read_components h typed (.inl rfl)]
      exact .refl _
  | componentOfName =>
      rw [read_components h typed (.inr (.inl rfl))]
      exact .refl _
  | componentOfType =>
      rw [read_components h typed (.inr (.inr rfl))]
      exact .refl _
  | measure items m =>
      obtain ⟨⟨source, rfl⟩, points⟩ := survives
      refine concur_read_measure h typed marks fun total => plain ⟨key.source, ?_⟩
      obtain ⟨lms, property⟩ := points total
      rw [named, ← lms, ← property]
  | shell get =>
      have same : u.lmsCourse = s.lmsCourse := (congrArg Section.lmsCourse h.others :)
      simp only [Reader.read, Slot.get_own, ok_bind, same]
      exact .refl _
  | courseEntry get =>
      have same : u.course = s.course := (congrArg Section.course h.others :)
      simp only [Reader.read, Slot.get_own, ok_bind, same]
      exact .refl _

/-- The order of the lists of a section makes no difference to a task, unless it adds up points. -/
theorem evaluate_rearranged (catalog : Catalog) (context : EvaluationContext)
    (t : PlanTask) (plain : ∀ c ∈ t.groupedConditions.flatten, ¬ c.OnTotalPoints) {s u : Section}
    (typed : s.WellTyped) (marks : s.HasBoundedMarks) (h : s.Rearranges u)
    (notes noted : List (String × Value)) :
    t.evaluate catalog context (.own s notes) = t.evaluate catalog context (.own u noted) := by
  apply (PlanTask.related_self plain).evaluate_of_concur
  · exact .ok trivial
  · rintro c d ⟨rfl, plain⟩
    refine Concur.holds_eq ((concur_resolve_rearranged h typed marks plain).bind fun v w same => ?_)
    rw [same]
    exact .refl _
  · rintro c d ⟨rfl, plain⟩ type
    refine (concur_resolve_rearranged h typed marks plain).bind fun v w same => ?_
    rw [same]
    exact .refl _

/-- A task that asks for quizzes of an average score and for a component. -/
def scoredAndGraded : PlanTask where
  groups := .ofList [{ conditions := .ofList [
    { groupType := .choice (.group .lms), source := .text "Quiz",
      property := .text "Average Score", operator := .text "Is greater than",
      value := .text "0.5" },
    { groupType := .choice (.group .syllabus), source := .text "Component by name",
      property := .text "Grading scheme", operator := .text "Is present" }] }]

def quizOfScore (score : Binary64) : LmsItem := { averageScore := .float score }

theorem quizOfScore_bounded {score : Binary64} (h : score.isFinite = true) :
    (quizOfScore score).HasBoundedMarks where
  averageScore _ same := Value.float.inj same ▸ h
  completionRate _ none := nomatch none

/-- So many tenths, rounded to the nearest number. -/
def tenths (n : Nat) : Binary64 := Binary64.ofRatio false n 10

def threeQuizzes : Section where
  components := .ofList [{ name := .text "Course overview" }, { name := .text "Grading scheme" }]
  quizzes := .ofList [quizOfScore (tenths 3), quizOfScore (tenths 6), quizOfScore (tenths 9)]

def threeQuizzesReversed : Section where
  components := .ofList [{ name := .text "Grading scheme" }, { name := .text "Course overview" }]
  quizzes := .ofList [quizOfScore (tenths 9), quizOfScore (tenths 6), quizOfScore (tenths 3)]

theorem evaluate_rearranged_quizzes :
    threeQuizzes.Rearranges threeQuizzesReversed ∧
      scoredAndGraded.evaluate Catalog.standard (.ofDay ⟨2025, 10, 1, by decide⟩) threeQuizzes =
        scoredAndGraded.evaluate Catalog.standard (.ofDay ⟨2025, 10, 1, by decide⟩)
          threeQuizzesReversed ∧
      ((scoredAndGraded.evaluate Catalog.standard (.ofDay ⟨2025, 10, 1, by decide⟩)
        threeQuizzes).toOption.bind id).map (·.passes) = some true := by
  have keys : scoredAndGraded.groupedConditions.flatten.map (·.key?) =
      [some ⟨.lms, "Quiz", "Average Score"⟩,
        some ⟨.syllabus, "Component by name", "Grading scheme"⟩] := by
    decide +kernel
  have plain : ∀ c ∈ scoredAndGraded.groupedConditions.flatten, ¬ c.OnTotalPoints := by
    rintro c member ⟨source, total⟩
    have listed := List.mem_map_of_mem (f := Condition.key?) member
    rw [keys, total] at listed
    simp at listed
  have lists (source : LmsSource) : threeQuizzes.itemsOf source =
      if source = .quiz then threeQuizzes.quizzes else .ofList [] := by
    cases source <;> rfl
  have typed : threeQuizzes.WellTyped := by
    refine ⟨fun source => ?_, Slots.holds_ofList fun p member => ?_⟩
    · rw [lists]
      split <;> exact Slots.holds_ofList fun _ _ => trivial
    · rcases List.mem_pair.mp member with rfl | rfl <;> exact ⟨⟨_, rfl⟩, .inl rfl⟩
  have marks : threeQuizzes.HasBoundedMarks := by
    intro source i member
    rw [lists] at member
    split at member
    · have member : i ∈ [tenths 3, tenths 6, tenths 9].map quizOfScore := member
      obtain ⟨score, listed, rfl⟩ := List.mem_map.mp member
      have finite : ∀ score ∈ [tenths 3, tenths 6, tenths 9], score.isFinite = true := by
        decide +kernel
      exact quizOfScore_bounded (finite score listed)
    · cases member
  have rearranged : threeQuizzes.Rearranges threeQuizzesReversed := by
    refine ⟨fun source => ?_, .inr ⟨.own (.swap _ _ _), ?_⟩, rfl⟩
    · cases source
      case quiz => exact .own (List.reverse_perm _).symm
      all_goals exact .own .nil
    · unfold Section.HasDistinctNames
      decide +kernel
  refine ⟨rearranged, ?_, by decide +kernel⟩
  exact evaluate_rearranged Catalog.standard (.ofDay ⟨2025, 10, 1, by decide⟩)
    scoredAndGraded plain typed marks rearranged [] []

end CourseAudit
