import CourseAudit.Proofs.Encoding
import CourseAudit.Proofs.Halves
import CourseAudit.Proofs.Outcome
import CourseAudit.Proofs.Readers
import CourseAudit.Review.Context

/-!
What is read of a section and shown of a task. Whatever is decided and rendered, no half is in it
unless one is in the task, in the section or in the tokens.
-/
namespace CourseAudit

section Readings

/-- Sums are numbers. -/
theorem holdsHalf_plus {total v sum : Value} (h : plus total v = .ok sum) :
    sum.holdsHalf = false := by
  unfold plus at h
  split at h
  · cases h
    rfl
  all_goals
    split at h
    · first
        | obtain ⟨x, -, rfl⟩ := map_eq_ok_iff.mp h
          rfl
        | cases h
          rfl
    · cases h

theorem holdsHalf_sumOf {α : Type} {value : α → Except Fault Value} {members : List α} {sum : Value}
    (h : sumOf value members = .ok sum) : sum.holdsHalf = false := by
  -- By induction on the members, with any number for the sum of those before them.
  have fold (total : Value) (whole : total.holdsHalf = false) :
      members.foldlM (fun total a => do
        let v ← value a
        plus total (if v.isSet then v else .int 0)) total = .ok sum → sum.holdsHalf = false := by
    clear h
    induction members generalizing total with
    | nil =>
        intro h
        cases h
        exact whole
    | cons a rest ih =>
        intro h
        rw [List.foldlM_cons] at h
        obtain ⟨next, added, h⟩ := bind_eq_ok_iff.mp h
        obtain ⟨v, -, added⟩ := bind_eq_ok_iff.mp added
        exact ih next (holdsHalf_plus added) h
  exact fold (.int 0) rfl h

theorem holdsHalf_meanOf {values : List Value} {mean : Value} (h : meanOf values = .ok mean) :
    mean.holdsHalf = false := by
  obtain ⟨units, -, h⟩ := bind_eq_ok_iff.mp h
  dsimp only at h
  repeat' split at h
  all_goals
    cases h
    try rfl

theorem holdsHalf_meanOfPresent {values : List Value} {mean : Value}
    (h : meanOfPresent values = .ok mean) : mean.holdsHalf = false := by
  unfold meanOfPresent at h
  split at h
  · cases h
    rfl
  · exact holdsHalf_meanOf h

/-- What is measured of items is a number, a yes or a no. -/
theorem Measure.holdsHalf_of {context : EvaluationContext} {c : Condition}
    {items : List (Slot LmsItem)} {m : Measure} {measured : Value}
    (h : m.of context c items = .ok measured) : measured.holdsHalf = false := by
  cases m with
  | count =>
      cases h
      rfl
  | points => exact holdsHalf_sumOf h
  | percent =>
      obtain ⟨percent, -, h⟩ := bind_eq_ok_iff.mp h
      cases percent with
      | none | some i =>
          cases h
          rfl
  | averageScore | completionRate =>
      obtain ⟨scores, -, h⟩ := bind_eq_ok_iff.mp h
      exact holdsHalf_meanOfPresent h
  | inUse =>
      obtain ⟨used, -, rfl⟩ := map_eq_ok_iff.mp h
      rfl

/-- The parts of a section that a reader may show as they are hold no half. -/
def Reader.IsWhole (s : Section) : Reader → Prop
  | .field get => (get s).holdsHalf = false
  | .shell get => ∀ shell notes, s.lmsCourse = .own shell notes → (get shell).holdsHalf = false
  | .courseEntry get =>
    ∀ course notes, s.course = .own course notes → (get course).holdsHalf = false
  | _ => True

/-- What any property shows of a section holds no half. -/
def Section.IsWhole (s : Section) : Prop := ∀ entry ∈ Reader.table, entry.2.IsWhole s

variable {context : EvaluationContext} {rule : Option PropertyRule} {c : Condition} {s : Section}
  {actual : Value}

theorem holdsHalf_readComponent {slot : Slot Section}
    (h : readComponent context rule c slot = .ok actual) : actual.holdsHalf = false := by
  unfold readComponent at h
  split at h
  case h_3 =>
    cases h
    rfl
  all_goals
    obtain ⟨_, -, h⟩ := bind_eq_ok_iff.mp h
    obtain ⟨_, -, h⟩ := bind_eq_ok_iff.mp h
    obtain ⟨found, -, h⟩ := bind_eq_ok_iff.mp h
    split at h
    · cases h
      rfl
    · split at h
      · obtain ⟨holds, -, rfl⟩ := map_eq_ok_iff.mp h
        rfl
      · cases h
        rfl

theorem holdsHalf_readComponentType {slot : Slot Section}
    (h : readComponentType c slot = .ok actual) : actual.holdsHalf = false := by
  unfold readComponentType at h
  split at h
  · obtain ⟨_, -, h⟩ := bind_eq_ok_iff.mp h
    obtain ⟨_, -, h⟩ := bind_eq_ok_iff.mp h
    obtain ⟨found, -, rfl⟩ := map_eq_ok_iff.mp h
    rfl
  · cases h

theorem Reader.IsWhole.read {reader : Reader} (whole : reader.IsWhole s)
    (h : reader.read context rule c s = .ok actual) : actual.holdsHalf = false := by
  cases reader with
  | field get =>
      cases h
      exact whole
  | componentCount =>
      obtain ⟨_, -, h⟩ := bind_eq_ok_iff.mp h
      obtain ⟨_, -, h⟩ := bind_eq_ok_iff.mp h
      cases h
      rfl
  | componentOfName => exact holdsHalf_readComponent h
  | componentOfType => exact holdsHalf_readComponentType h
  | measure items m =>
      obtain ⟨_, -, h⟩ := bind_eq_ok_iff.mp h
      obtain ⟨_, -, h⟩ := bind_eq_ok_iff.mp h
      obtain ⟨_, -, h⟩ := bind_eq_ok_iff.mp h
      exact Measure.holdsHalf_of h
  | shell get =>
      simp only [Reader.read, Slot.get_own, ok_bind] at h
      split at h
      · cases h
        rfl
      · obtain ⟨shell, found, rfl⟩ := map_eq_ok_iff.mp h
        cases own : s.lmsCourse with
        | own record notes =>
            rw [own] at found
            cases found
            exact whole _ notes own
        | other v =>
            rw [own] at found
            cases found
  | courseEntry get =>
      simp only [Reader.read, Slot.get_own, ok_bind] at h
      split at h
      · next course notes own =>
          cases h
          exact whole course notes own
      · cases h
        rfl

theorem Reader.isWhole_of_ofSource? {group : GroupType} {source : String} {reader : Reader}
    (h : Reader.ofSource? group source = some reader) : reader.IsWhole s :=
  of_ofSource? (P := fun _ reader => reader.IsWhole s) "" trivial trivial h

theorem Reader.isWhole_of_ofKey? (whole : s.IsWhole) {key : PropertyKey} {reader : Reader}
    (h : Reader.ofKey? key = some reader) : reader.IsWhole s :=
  of_ofKey? (P := fun _ reader => reader.IsWhole s) whole (fun _ => trivial) (fun _ => trivial) h

theorem Reader.isWhole_of_ofCondition? (whole : s.IsWhole) {reader : Reader}
    (h : Reader.ofCondition? c = .ok (some reader)) : reader.IsWhole s := by
  obtain ⟨group, -, h⟩ := bind_eq_ok_iff.mp h
  cases group with
  | none => cases h
  | some group =>
      obtain ⟨source, -, h⟩ := bind_eq_ok_iff.mp h
      obtain ⟨property, -, h⟩ := bind_eq_ok_iff.mp h
      split at h
      · exact isWhole_of_ofKey? whole (Except.ok.inj h)
      · exact isWhole_of_ofSource? (Except.ok.inj h)
      · cases h

/-- The value that a condition compares holds no half where the section shows none. -/
theorem Section.IsWhole.resolve (whole : s.IsWhole) {catalog : Catalog}
    (h : c.resolve catalog context s = .ok actual) : actual.holdsHalf = false := by
  obtain ⟨rule, -, h⟩ := bind_eq_ok_iff.mp h
  split at h
  · cases h
    rfl
  · obtain ⟨reader, named, h⟩ := bind_eq_ok_iff.mp h
    split at h
    · cases h
      rfl
    · exact (Reader.isWhole_of_ofCondition? whole named).read h

theorem holdsHalf_worded {flag : Value} {on off : String} (plainOn : Text.hasHalf on = false)
    (plainOff : Text.hasHalf off = false) : (worded flag on off).holdsHalf = false := by
  unfold worded
  split
  · rfl
  · split
    · exact plainOn
    · exact plainOff

theorem LmsCourse.holdsHalf_ofPayload {v : Value} (whole : v.holdsHalf = false) :
    ∀ part ∈ Reader.shellParts, (part.2 (ofPayload v)).holdsHalf = false := by
  have words : Text.hasHalf "Yes" = false ∧ Text.hasHalf "No" = false := by decide
  simp only [Reader.shellParts, List.forall_mem_cons, ofPayload, Value.holdsHalf_part whole,
    holdsHalf_worded words.1 words.2, List.not_mem_nil, false_implies, implies_true, and_self]

theorem CourseAttributes.holdsHalf_ofPayload {v hours : Value} (whole : v.holdsHalf = false)
    (wholeHours : hours.holdsHalf = false) :
    ∀ part ∈ Reader.courseParts, (part.2 (ofPayload v hours)).holdsHalf = false := by
  have credit : (if (v.part "creditHours").isNull then hours
      else v.part "creditHours").holdsHalf = false := by
    split
    · exact wholeHours
    · exact Value.holdsHalf_part whole _
  simp only [Reader.courseParts, List.forall_mem_cons, ofPayload, Value.holdsHalf_part whole,
    credit, List.not_mem_nil, false_implies, implies_true, and_self]

/-- Sections out of payloads without halves show none. -/
theorem Section.isWhole_ofPayload {v : Value} (whole : v.holdsHalf = false) :
    (ofPayload v).IsWhole := by
  have part := Value.holdsHalf_part whole
  apply Reader.forall_table (P := fun _ reader => reader.IsWhole (ofPayload v))
  case details => simp [Reader.detailParts, Reader.IsWhole, ofPayload, part]
  case count => exact trivial
  case lists => exact fun _ _ _ _ => trivial
  case shell =>
    intro p inside shell notes own
    unfold ofPayload at own
    dsimp only at own
    split at own
    · cases own
    · cases own
      exact LmsCourse.holdsHalf_ofPayload (part _) p inside
  case course =>
    intro p inside course notes own
    cases own
    exact CourseAttributes.holdsHalf_ofPayload (part _) (part _) p inside
  case own => simp [Reader.sectionParts, Reader.IsWhole, ofPayload, part]

/-- No token stands for a half. -/
def EvaluationContext.IsWhole (context : EvaluationContext) : Prop :=
  Value.entriesHoldHalf context.tokens = false

theorem EvaluationContext.IsWhole.resolve (tokens : context.IsWhole) {v : Value}
    (whole : v.holdsHalf = false) : (context.resolve v).holdsHalf = false := by
  unfold EvaluationContext.resolve
  split
  · next s _ =>
      cases found : Value.get? context.tokens (Text.trim s) with
      | none => exact whole
      | some value => exact Value.holdsHalf_get? tokens found
  · exact whole

theorem holdsHalf_shownPercent {expected percent : Value} (whole : actual.holdsHalf = false)
    (h : shownPercent c actual expected = .ok percent) : percent.holdsHalf = false := by
  unfold shownPercent at h
  split at h
  · cases h
    exact whole
  · split at h
    case h_3 =>
      cases h
      rfl
    all_goals
      obtain ⟨share, -, h⟩ := bind_eq_ok_iff.mp h
      cases share with
      | none | some i =>
          cases h
          rfl

/-- Rendering adds nothing but plain marks to what it shows. -/
theorem DisplayType.hasHalf_render {type : DisplayType} {expected : Value}
    (wholeActual : actual.holdsHalf = false) (wholeExpected : expected.holdsHalf = false)
    {text : String} (h : type.render c actual expected = .ok text) : Text.hasHalf text = false := by
  have marks : Text.hasHalf notAvailable = false ∧ Text.hasHalf " / " = false ∧
      Text.hasHalf "%" = false := by decide
  cases type with
  | number | statusLabel => exact Value.hasHalf_display wholeActual h
  | fraction =>
      obtain ⟨whole, -, h⟩ := bind_eq_ok_iff.mp h
      cases whole with
      | none =>
          cases h
          exact marks.1
      | some whole =>
          dsimp only at h
          split at h
          · cases h
            exact marks.1
          · obtain ⟨upper, shown, h⟩ := bind_eq_ok_iff.mp h
            obtain ⟨lower, under, h⟩ := bind_eq_ok_iff.mp h
            cases h
            simp [Value.hasHalf_display wholeActual shown,
              Value.hasHalf_display wholeExpected under, marks]
  | percent =>
      obtain ⟨percent, found, h⟩ := bind_eq_ok_iff.mp h
      have whole := holdsHalf_shownPercent wholeActual found
      split at h
      · cases h
        exact marks.1
      · obtain ⟨share, shown, h⟩ := bind_eq_ok_iff.mp h
        cases h
        simp [Value.hasHalf_display whole shown, marks]
  | date =>
      cases h
      exact hasHalf_displayDate actual
  | yesNo =>
      cases h
      exact marks.1

end Readings

theorem SubCondition.holdsHalf_payload {s : SubCondition} : s.payload.holdsHalf = false ↔
    s.id.holdsHalf = false ∧ s.property.holdsHalf = false ∧ s.operator.holdsHalf = false ∧
      s.value.holdsHalf = false := by
  simp +decide [payload, Value.holdsHalf, Value.entriesHoldHalf]

/-- No half is in a condition as it is answered. -/
def Condition.IsWhole (c : Condition) : Prop := c.payload.holdsHalf = false

theorem Condition.isWhole_iff {c : Condition} : c.IsWhole ↔ c.id.holdsHalf = false ∧
    c.writtenGroup.holdsHalf = false ∧ c.source.holdsHalf = false ∧
      c.property.holdsHalf = false ∧ c.operator.holdsHalf = false ∧ c.value.holdsHalf = false ∧
        ∀ s ∈ c.subConditions.records, s.payload.holdsHalf = false := by
  rw [IsWhole, payload_eq]
  simp +decide [Value.holdsHalf, Value.entriesHoldHalf, Value.itemsHoldHalf_eq_false_iff]

theorem Condition.isWhole_ofPayload {v : Value} (whole : v.holdsHalf = false) :
    (ofPayload v).IsWhole := by
  have part := Value.holdsHalf_part whole
  have group : (ofPayload v).writtenGroup.holdsHalf = false := by
    have parsed : (ofPayload v).groupType = GroupType.parsed (v.part "groupType") := rfl
    rw [writtenGroup, parsed, GroupType.parsed]
    split
    · next label named =>
        split at named
        · next g _ =>
            cases named
            exact (Choice.group g).hasHalf_label
        · cases named
    · split
      · rfl
      · rfl
  refine isWhole_iff.mpr ⟨part _, group, part _, part _, part _, part _, ?_⟩
  intro s member
  rw [ofPayload, Slots.records_ofList] at member
  obtain ⟨item, inside, rfl⟩ := List.mem_map.mp member
  have own := Value.holdsHalf_part (Value.holdsHalf_items (part _) item inside)
  exact SubCondition.holdsHalf_payload.mpr ⟨own _, own _, own _, own _⟩

/-- No half is in what a presentation is answered by. -/
structure Presentation.IsWhole (p : Presentation) : Prop where
  type : p.type.holdsHalf = false
  customName : p.customName.holdsHalf = false
  icon : p.icon.holdsHalf = false

theorem Presentation.isWhole_ofPayload {v : Value} (whole : v.holdsHalf = false) :
    (ofPayload v).IsWhole :=
  ⟨Value.holdsHalf_part whole _, Value.holdsHalf_part whole _, Value.holdsHalf_part whole _⟩

/-- No half is in what is answered of a task. -/
structure PlanTask.IsWhole (t : PlanTask) : Prop where
  occurrences : ∀ o ∈ t.occurrences, o.1.id.holdsHalf = false ∧ o.2.IsWhole
  presented : ∀ passes p, (t.presentation passes).get = .ok p → p.IsWhole

theorem PlanTask.isWhole_ofPayload {v : Value} (whole : v.holdsHalf = false) :
    (ofPayload v).IsWhole where
  occurrences o member := by
    obtain ⟨g, inside, member⟩ := List.mem_flatMap.mp member
    obtain ⟨c, stands, rfl⟩ := List.mem_map.mp member
    rw [ofPayload, Slots.records_ofList] at inside
    obtain ⟨item, listed, rfl⟩ := List.mem_map.mp inside
    have part := Value.holdsHalf_part
      (Value.holdsHalf_items (Value.holdsHalf_part whole _) item listed)
    rw [ConditionGroup.ofPayload, Slots.records_ofList] at stands
    obtain ⟨inner, there, rfl⟩ := List.mem_map.mp stands
    exact ⟨part _, Condition.isWhole_ofPayload (Value.holdsHalf_items (part _) inner there)⟩
  presented passes p found := by
    cases passes with
    | true | false =>
        cases found
        exact Presentation.isWhole_ofPayload (Value.holdsHalf_part whole _)

/-- No half is in an outcome as it is answered. -/
structure Outcome.IsWhole (o : Outcome) : Prop where
  display : Text.hasHalf o.display = false
  presentation : o.presentation.IsWhole

namespace PlanTask

variable {catalog : Catalog} {context : EvaluationContext} {t : PlanTask} {s : Section}

theorem hasHalf_yesNo (passes : Bool) : Text.hasHalf (yesNo passes) = false := by
  cases passes <;> decide

theorem IsWhole.conditions (whole : t.IsWhole) :
    ∀ c ∈ t.groupedConditions.flatten, c.IsWhole := by
  intro c member
  rw [← occurrences_conditions] at member
  obtain ⟨o, there, rfl⟩ := List.mem_map.mp member
  exact (whole.occurrences o there).2

/-- A half that a task shows of a section is in one of them or in the tokens. -/
theorem IsWhole.hasHalf_display (whole : t.IsWhole) (structured : t.IsStructured)
    (tokens : context.IsWhole) (shows : s.IsWhole) {passes : Bool} {text : String}
    (h : t.display catalog context passes s = .ok text) : Text.hasHalf text = false := by
  have plain (governing : Option (Slot Condition)) (hidden :
      DisplayType.ofValue? t.displayType = none ∨ DisplayType.ofValue? t.displayType = some .yesNo ∨
        governing = none) : Text.hasHalf (t.displayOf context passes governing fun c =>
          c.resolve catalog context s) = false := by
    rw [displayOf_yesNo passes _ hidden]
    exact hasHalf_yesNo passes
  rcases structured.governing with ⟨c, notes, only, found⟩ | ⟨-, found⟩
  · rw [PlanTask.display, found] at h
    cases h
    have own : c.IsWhole := whole.conditions c (by rw [only]; exact List.mem_singleton_self c)
    have value := (Condition.isWhole_iff.mp own).2.2.2.2.2.1
    cases typed : DisplayType.ofValue? t.displayType with
    | none => exact plain _ (.inl typed)
    | some type =>
        by_cases valued : type = .yesNo
        · exact plain _ (.inr (.inl (valued ▸ typed)))
        · dsimp only
          rw [displayOf_valued typed valued, Slot.get_own, ok_bind]
          split
          · next text rendered =>
              obtain ⟨actual, resolved, rendered⟩ := bind_eq_ok_iff.mp rendered
              exact DisplayType.hasHalf_render (shows.resolve resolved) (tokens.resolve value)
                rendered
          · decide
  · rw [PlanTask.display, found] at h
    cases h
    exact plain none (.inr (.inr rfl))

theorem IsWhole.evaluate (whole : t.IsWhole) (structured : t.IsStructured)
    (tokens : context.IsWhole) (shows : s.IsWhole) {o : Outcome}
    (h : t.evaluate catalog context s = .ok (some o)) : o.IsWhole := by
  rcases @IsStructured.evaluate catalog context t structured s with
    ⟨-, none⟩ | ⟨-, found, evaluated, -, displayed, presented⟩
  · cases none.symm.trans h
  · cases evaluated.symm.trans h
    exact ⟨whole.hasHalf_display structured tokens shows displayed, whole.presented _ _ presented⟩

theorem IsWhole.manualOutcome (whole : t.IsWhole) {passes : Bool} {o : Outcome}
    (h : t.manualOutcome passes = .ok o) : o.IsWhole := by
  obtain ⟨p, presented, rfl⟩ := map_eq_ok_iff.mp h
  refine ⟨?_, whole.presented _ _ presented⟩
  change Text.hasHalf (t.manualDisplay passes) = false
  unfold manualDisplay
  split
  · exact hasHalf_yesNo passes
  · decide

/-- A half that a reviewer sees is in the task, in the section or in the tokens. -/
theorem IsWhole.review (whole : t.IsWhole) (structured : t.IsStructured) (tokens : context.IsWhole)
    {subject : Slot Section}
    (shows : subject = .other .null ∨ ∃ s : Section, subject = s ∧ s.IsWhole)
    {override : Option Verdict} {review : Review}
    (h : t.review catalog context subject override = .ok review) :
    ∀ d, review.data = some d → d.outcome.IsWhole := by
  intro d reviewed
  unfold PlanTask.review at h
  split at h
  · cases h
    cases reviewed
  · next given =>
      split at h
      · obtain ⟨o, decided, rfl⟩ := map_eq_ok_iff.mp h
        cases reviewed
        exact whole.manualOutcome decided
      · obtain ⟨incomplete, -, h⟩ := bind_eq_ok_iff.mp h
        split at h
        · cases h
          cases reviewed
        · split at h
          · obtain ⟨o, decided, h⟩ := bind_eq_ok_iff.mp h
            cases h
            cases reviewed
            exact whole.manualOutcome decided
          · obtain ⟨evaluated, outcome, found⟩ := bind_eq_ok_iff.mp h
            rcases shows with rfl | ⟨s, rfl, shows⟩
            · exact absurd rfl given
            · cases evaluated with
              | none =>
                  cases found
                  cases reviewed
              | some o =>
                  cases found
                  cases reviewed
                  exact whole.evaluate structured tokens shows outcome

end PlanTask

/-- No half is in an entry as it is answered. -/
structure ContextEntry.IsWhole (e : ContextEntry) : Prop where
  id : Text.hasHalf e.id = false
  name : e.name.holdsHalf = false
  sectionId : e.sectionId.holdsHalf = false
  outcome : e.outcome.IsWhole

namespace ContextLabel

variable {label : ContextLabel} {s : Section}

theorem hasHalf_idOf {id : String} (whole : s.id.holdsHalf = false) (h : label.idOf s = .ok id) :
    Text.hasHalf id = false := by
  have plain : Text.hasHalf label.text = false := by cases label <;> decide
  have hyphen : Text.hasHalf "-" = false := by decide
  obtain ⟨written, found, h⟩ := bind_eq_ok_iff.mp h
  cases h
  simp [plain, hyphen, Value.hasHalf_write whole found]

theorem holdsHalf_nameOf {name : Value} (whole : s.name.holdsHalf = false)
    (h : label.nameOf s = .ok name) : name.holdsHalf = false := by
  have shell : Text.hasHalf " LMS" = false := by decide
  unfold nameOf at h
  split at h
  · obtain ⟨written, found, h⟩ := bind_eq_ok_iff.mp h
    cases h
    simp [Value.holdsHalf, Value.hasHalf_write whole found, shell]
  · cases h
    exact whole

/-- The entry of a section holds a half only where the section or the outcome does. -/
theorem isWhole_of_entryOf {o : Outcome} {e : ContextEntry} (id : s.id.holdsHalf = false)
    (name : s.name.holdsHalf = false) (outcome : o.IsWhole) (h : label.entryOf s o = .ok e) :
    e.IsWhole := by
  obtain ⟨own, told, h⟩ := bind_eq_ok_iff.mp h
  obtain ⟨called, named, h⟩ := bind_eq_ok_iff.mp h
  cases h
  exact ⟨hasHalf_idOf id told, holdsHalf_nameOf name named, id, outcome⟩

end ContextLabel

/-- A half in the entries of sections out of payloads is in a payload, in the task or in the
tokens. -/
theorem PlanTask.IsWhole.contextEntries {catalog : Catalog} {context : EvaluationContext}
    {t : PlanTask} (whole : t.IsWhole) (structured : t.IsStructured) (tokens : context.IsWhole)
    {payloads : List Value} (shows : ∀ v ∈ payloads, v.holdsHalf = false)
    {entries : List ContextEntry}
    (h : t.contextEntries catalog context (.ofList (payloads.map Section.ofPayload)) =
      .ok entries) : ∀ e ∈ entries, e.IsWhole := by
  unfold PlanTask.contextEntries at h
  split at h
  · cases h
    exact fun _ none => absurd none List.not_mem_nil
  · obtain ⟨incomplete, -, h⟩ := bind_eq_ok_iff.mp h
    split at h
    · cases h
      exact fun _ none => absurd none List.not_mem_nil
    · obtain ⟨label, -, h⟩ := bind_eq_ok_iff.mp h
      obtain ⟨members, reading, h⟩ := bind_eq_ok_iff.mp h
      obtain ⟨found, each, h⟩ := bind_eq_ok_iff.mp h
      cases h
      cases reading
      intro e member
      obtain ⟨entry, listed, same⟩ := List.mem_filterMap.mp member
      cases same
      obtain ⟨slot, there, built⟩ := exists_of_mapM each listed
      obtain ⟨s, read, rfl⟩ := List.mem_map.mp there
      obtain ⟨v, given, rfl⟩ := List.mem_map.mp read
      obtain ⟨evaluated, outcome, found⟩ := bind_eq_ok_iff.mp built
      cases evaluated with
      | none => cases found
      | some o =>
          obtain ⟨_, own, found⟩ := bind_eq_ok_iff.mp found
          cases own
          obtain ⟨made, entered, found⟩ := bind_eq_ok_iff.mp found
          cases found
          have part := Value.holdsHalf_part (shows v given)
          exact ContextLabel.isWhole_of_entryOf (part _) (part _)
            (whole.evaluate structured tokens (Section.isWhole_ofPayload (shows v given)) outcome)
            entered

end CourseAudit
