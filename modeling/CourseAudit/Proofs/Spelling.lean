import CourseAudit.Payload.Domain
import CourseAudit.Proofs.Fault
import Mathlib.Data.List.Pairwise

/-!
Spellings of keys. The parts of a record may go by their own names or by these written in one
word; assignments and the number of a section have spellings of their own. A payload that differs
from another only in how it spells the parts of its records, at whatever depth, in the order of
its entries and in entries that are no parts is read like the other one.
-/
namespace CourseAudit.Payload

/-- Letters in one word: a low line falls away, and the letter after it becomes a capital. -/
def joined : List Char → List Char
  | '_' :: c :: rest => c.toUpper :: joined rest
  | c :: rest => c :: joined rest
  | [] => []

/-- The keys that a part may go by. -/
def spellings (name : String) : List String :=
  match name with
  | "assignments" => ["assignments", "lmsAssignments", "lms_assignments"]
  | "crn" => ["crn", "CRN"]
  | _ => [String.ofList (joined name.toList), name]

mutual

/-- Where records lie within a payload, and what their parts are named. What is plain belongs to
one part as it is. -/
inductive Shape
  | plain
  | list (items : Shape)
  | record (parts : Shapes)

inductive Shapes
  | nil
  | cons (name : String) (shape : Shape) (rest : Shapes)

end

namespace Shapes

def ofNames (shape : String → Shape) : List String → Shapes
  | [] => .nil
  | name :: rest => .cons name (shape name) (ofNames shape rest)

/-- The name of the part that a key is a spelling of. -/
def nameOf? : Shapes → String → Option String
  | .nil, _ => none
  | .cons name _ rest, key => if key ∈ spellings name then some name else rest.nameOf? key

def shape? : Shapes → String → Option Shape
  | .nil, _ => none
  | .cons name shape rest, key => if name = key then some shape else rest.shape? key

/-- The names of the parts that a record has entries for. -/
def named (parts : Shapes) (entries : List (String × Value)) : List String :=
  entries.filterMap fun entry => parts.nameOf? entry.1

end Shapes

mutual

/-- Whether a payload comes from another by spelling the parts of records in other ways, no part
in two of them, and by adding entries to records that are no parts of them. -/
def Shape.Respells : Shape → Value → Value → Prop
  | .plain, v, w => w = v
  | .list items, v, w =>
      w = v ∨ ∃ vs ws, v = .list vs ∧ w = .list ws ∧ List.Forall₂ items.Respells vs ws
  | .record parts, v, w =>
      w = v ∨ ∃ entries others kept added, v = .dict entries ∧ w = .dict others ∧
        List.Forall₂ parts.RespellEntry entries kept ∧
        (∀ entry ∈ added, parts.nameOf? entry.1 = none) ∧
        others.Perm (kept ++ added) ∧ (parts.named others).Nodup

/-- Entries for the same part, or the same entry where there is no such part. -/
def Shapes.RespellEntry : Shapes → String × Value → String × Value → Prop
  | .nil, entry, other => other = entry
  | .cons name shape rest, entry, other =>
      entry.1 ∈ spellings name ∧ other.1 ∈ spellings name ∧ shape.Respells entry.2 other.2 ∨
        entry.1 ∉ spellings name ∧ other.1 ∉ spellings name ∧ rest.RespellEntry entry other

end

/-! ## The shapes of tasks, sections and conditions -/

/-- The shape of a record by the names of its parts. -/
def shapeOf {R : Type} (parts : List (Part R)) (inner : String → Shape) : Shape :=
  .record (.ofNames inner (parts.map (·.name)))

def conditionShape : Shape :=
  shapeOf Condition.parts fun
    | "sub_conditions" => .list (shapeOf SubCondition.parts fun _ => .plain)
    | _ => .plain

def groupShape : Shape :=
  shapeOf ConditionGroup.parts fun
    | "conditions" => .list conditionShape
    | _ => .plain

def taskShape : Shape :=
  shapeOf PlanTask.parts fun
    | "condition_groups" => .list groupShape
    | "condition_result" | "condition_failure" => shapeOf Presentation.parts fun _ => .plain
    | _ => .plain

/-- Sections hold credit hours as well, which go into the course. -/
def sectionShape : Shape :=
  let inner : String → Shape
    | "components" => .list (shapeOf Component.parts fun _ => .plain)
    | "assignments" | "discussions" | "documents" | "modules" | "pages" | "quizzes" | "rubrics"
    | "surveys" => .list (shapeOf LmsItem.parts fun _ => .plain)
    | "lms_course" => shapeOf LmsCourse.parts fun _ => .plain
    | "course" => shapeOf CourseAttributes.parts fun _ => .plain
    | _ => .plain
  .record (.ofNames inner ("attribute_credit_hours" :: Section.parts.map (·.name)))

/-! ## Forms that go by the spellings of a shape -/

mutual

/-- Whether the fields of a form go by the spellings of the parts of a shape, each by all of one
part and by no others. -/
def Form.goesBy : Form → Shape → Bool
  | .optional form, shape => form.goesBy shape
  | .list form, .list items => form.goesBy items
  | .record fields, .record parts => fields.goBy parts
  | _, .plain => true
  | _, _ => false

def Fields.goBy : Fields → Shapes → Bool
  | .nil, _ => true
  | .cons key otherKeys _ form rest, parts =>
      (match parts.nameOf? key with
        | none => false
        | some name =>
          (key :: otherKeys).all (fun k => parts.nameOf? k == some name) &&
            (spellings name).all (fun k => (key :: otherKeys).contains k) &&
            (parts.shape? name).any fun shape => form.goesBy shape) &&
        rest.goBy parts

end

theorem condition_goesBy : condition.goesBy conditionShape = true := by decide +kernel

theorem task_goesBy : task.goesBy taskShape = true := by decide +kernel

theorem section_goesBy : sectionRecord.goesBy sectionShape = true := by decide +kernel

/-! ## Entries under the spellings of one part -/

namespace Shapes

variable {parts : Shapes} {entries others kept added : List (String × Value)}
  {entry other : String × Value} {name key : String} {shape : Shape} {keys : List String}

theorem mem_spellings_of_nameOf? :
    ∀ {parts : Shapes}, parts.nameOf? key = some name → key ∈ spellings name
  | .nil, h => by cases h
  | .cons first _ rest, h => by
      unfold nameOf? at h
      split at h
      · next spelled =>
          cases h
          exact spelled
      · exact mem_spellings_of_nameOf? h

theorem RespellEntry.nameOf?_eq : ∀ {parts : Shapes}, parts.RespellEntry entry other →
    parts.nameOf? entry.1 = parts.nameOf? other.1
  | .nil, h => rfl
  | .cons name shape rest, h => by
      rcases h with ⟨here, there, -⟩ | ⟨notHere, notThere, later⟩
      · simp only [nameOf?, here, there, if_true]
      · simp only [nameOf?, notHere, notThere, if_false]
        exact nameOf?_eq later

/-- Entries for a part hold respelled values. -/
theorem RespellEntry.respells : ∀ {parts : Shapes}, parts.RespellEntry entry other →
    parts.nameOf? entry.1 = some name → parts.shape? name = some shape →
      shape.Respells entry.2 other.2
  | .nil, _, named, _ => by cases named
  | .cons first own rest, h, named, shaped => by
      unfold nameOf? at named
      unfold shape? at shaped
      rcases h with ⟨here, -, same⟩ | ⟨notHere, -, later⟩
      · rw [if_pos here] at named
        cases named
        rw [if_pos rfl] at shaped
        cases shaped
        exact same
      · rw [if_neg notHere] at named
        have spelled := mem_spellings_of_nameOf? named
        have differs : first ≠ name := by
          rintro rfl
          exact notHere spelled
        rw [if_neg differs] at shaped
        exact respells later named shaped

/-- Entries for a part under any two of its spellings. -/
theorem RespellEntry.of_named : ∀ {parts : Shapes}, parts.nameOf? entry.1 = some name →
    parts.nameOf? other.1 = some name → parts.shape? name = some shape →
      shape.Respells entry.2 other.2 → parts.RespellEntry entry other
  | .nil, named, _, _, _ => by cases named
  | .cons first own rest, named, also, shaped, h => by
      have spelled := mem_spellings_of_nameOf? named
      have alsoSpelled := mem_spellings_of_nameOf? also
      unfold nameOf? at named also
      unfold shape? at shaped
      by_cases here : entry.1 ∈ spellings first
      · rw [if_pos here] at named
        cases named
        rw [if_pos rfl] at shaped
        cases shaped
        exact .inl ⟨here, alsoSpelled, h⟩
      · have differs : first ≠ name := by
          rintro rfl
          exact here spelled
        have notThere : other.1 ∉ spellings first := by
          intro there
          rw [if_pos there] at also
          exact differs (Option.some.inj also)
        rw [if_neg here] at named
        rw [if_neg notThere] at also
        rw [if_neg differs] at shaped
        exact .inr ⟨here, notThere, of_named named also shaped h⟩

theorem named_of_respelled (h : List.Forall₂ parts.RespellEntry entries kept) :
    parts.named entries = parts.named kept := by
  induction h with
  | nil => rfl
  | cons first _ ih =>
      have same := first.nameOf?_eq
      simp only [named, List.filterMap_cons, same] at ih ⊢
      rw [ih]

/-- With entries for a part under one key only, there is one entry for it. -/
theorem eq_of_named (once : (parts.named entries).Nodup) (here : entry ∈ entries)
    (there : other ∈ entries) (named : parts.nameOf? entry.1 = some name)
    (alsoNamed : parts.nameOf? other.1 = some name) : entry = other := by
  have symmetric : Std.Symm fun a b : String × Value =>
      parts.nameOf? a.1 = some name → parts.nameOf? b.1 ≠ some name :=
    ⟨fun _ _ apart hb ha => apart ha hb⟩
  have apart : entries.Pairwise fun a b =>
      parts.nameOf? a.1 = some name → parts.nameOf? b.1 ≠ some name := by
    refine (List.pairwise_filterMap.mp once).imp ?_
    intro a b distinct ha hb
    exact distinct name ha name hb rfl
  by_contra differs
  exact apart.forall here there differs named alsoNamed

/-- The entry that a field goes by is the entry for its part. -/
theorem entryOf_eq_some_iff (spell : ∀ key, key ∈ keys ↔ parts.nameOf? key = some name)
    (once : (parts.named entries).Nodup) :
    entryOf entries keys = some entry ↔ entry ∈ entries ∧ parts.nameOf? entry.1 = some name := by
  have found (e : String × Value) (h : entryOf entries keys = some e) :
      e ∈ entries ∧ parts.nameOf? e.1 = some name := by
    obtain ⟨key, listed, h⟩ := List.exists_of_findSome?_eq_some h
    obtain ⟨v, got, rfl⟩ := Option.map_eq_some_iff.mp h
    obtain ⟨⟨key', v'⟩, first, rfl⟩ := Option.map_eq_some_iff.mp got
    have same : key' = key := by simpa using List.find?_some first
    subst same
    exact ⟨List.mem_of_find?_eq_some first, (spell key').mp listed⟩
  constructor
  · exact found entry
  · -- the key of the entry is looked for, so some entry is found, and there is no other
    rintro ⟨member, named⟩
    cases h : entryOf entries keys with
    | some e =>
        obtain ⟨alsoMember, alsoNamed⟩ := found e h
        rw [eq_of_named once member alsoMember named alsoNamed]
    | none =>
        have absent := List.findSome?_eq_none_iff.mp h entry.1 ((spell _).mpr named)
        have there : (entries.find? (·.1 == entry.1)).isSome :=
          List.find?_isSome.mpr ⟨entry, member, beq_self_eq_true _⟩
        simp only [Value.get?, Option.map_eq_none_iff] at absent
        rw [absent] at there
        cases there

/-- Two records in which the same parts have entries, and these hold respelled values. -/
structure Matched (parts : Shapes) (entries others : List (String × Value)) : Prop where
  once : (parts.named entries).Nodup
  onceMore : (parts.named others).Nodup
  there : ∀ entry ∈ entries, ∃ other ∈ others, parts.RespellEntry entry other
  back : ∀ other ∈ others, (∃ name, parts.nameOf? other.1 = some name) →
    ∃ entry ∈ entries, parts.RespellEntry entry other

theorem matched_of_respelled (respelled : List.Forall₂ parts.RespellEntry entries kept)
    (unknown : ∀ entry ∈ added, parts.nameOf? entry.1 = none)
    (same : others.Perm (kept ++ added)) (once : (parts.named others).Nodup) :
    parts.Matched entries others := by
  have none : parts.named added = [] := List.filterMap_eq_nil_iff.mpr unknown
  have rearranged : (parts.named others).Perm (parts.named kept ++ parts.named added) := by
    simpa only [named, List.filterMap_append] using same.filterMap fun e => parts.nameOf? e.1
  rw [none, List.append_nil, ← named_of_respelled respelled] at rearranged
  refine ⟨rearranged.nodup_iff.mp once, once, ?_, ?_⟩
  · intro entry member
    obtain ⟨other, found, h⟩ := exists_of_forall₂ respelled member
    exact ⟨other, same.mem_iff.mpr (List.mem_append_left _ found), h⟩
  · -- what has been added is for no part
    rintro other member ⟨name, named⟩
    rcases List.mem_append.mp (same.mem_iff.mp member) with isKept | isAdded
    · exact exists_of_forall₂ respelled.flip isKept
    · rw [unknown other isAdded] at named
      cases named

/-- Fields find matching entries in matched records. -/
theorem Matched.entryOf (h : parts.Matched entries others)
    (spell : ∀ key, key ∈ keys ↔ parts.nameOf? key = some name)
    (shaped : parts.shape? name = some shape) :
    Option.Rel (fun entry other => shape.Respells entry.2 other.2)
      (entryOf entries keys) (entryOf others keys) := by
  cases found : Payload.entryOf entries keys with
  | some entry =>
      obtain ⟨member, named⟩ := (entryOf_eq_some_iff spell h.once).mp found
      obtain ⟨other, also, respelled⟩ := h.there entry member
      have alsoNamed : parts.nameOf? other.1 = some name := respelled.nameOf?_eq ▸ named
      rw [(entryOf_eq_some_iff spell h.onceMore).mpr ⟨also, alsoNamed⟩]
      exact .some (respelled.respells named shaped)
  | none =>
      cases also : Payload.entryOf others keys with
      | none => exact .none
      | some other =>
          obtain ⟨member, named⟩ := (entryOf_eq_some_iff spell h.onceMore).mp also
          obtain ⟨entry, here, respelled⟩ := h.back other member ⟨name, named⟩
          have alsoNamed : parts.nameOf? entry.1 = some name := respelled.nameOf?_eq.trans named
          rw [(entryOf_eq_some_iff spell h.once).mpr ⟨here, alsoNamed⟩] at found
          cases found

end Shapes

/-- Every payload respells itself. -/
theorem Shape.Respells.refl (shape : Shape) (v : Value) : shape.Respells v v := by
  cases shape with
  | plain => exact rfl
  | list items => exact .inl rfl
  | record parts => exact .inl rfl

/-! ## Readings that give the same -/

theorem isNull_of_respells {shape : Shape} {v w : Value} (h : shape.Respells v w) :
    v.isNull = w.isNull := by
  cases shape with
  | plain => rw [show w = v from h]
  | list items =>
      rcases h with rfl | ⟨vs, ws, rfl, rfl, -⟩
      · rfl
      · rfl
  | record parts =>
      rcases h with rfl | ⟨entries, others, -, -, rfl, rfl, -⟩
      · rfl
      · rfl

theorem toOption_map {ε α β : Type} (f : α → β) (x : Except ε α) :
    (x.map f).toOption = x.toOption.map f := by
  cases x <;> rfl

theorem collect_congr {readings others : List Reading}
    (h : List.Forall₂ (fun r s => r.toOption = s.toOption) readings others) (start : Nat) :
    (collect start readings).toOption = (collect start others).toOption := by
  induction h generalizing start with
  | nil => rfl
  | @cons r s _ _ first _ ih =>
      have rest := ih (start + 1)
      unfold collect
      split <;> split <;> simp_all [Except.toOption]

/-- Where issues are found does not matter for what is read. -/
theorem toOption_located (f : Issue → Issue) (reading : Reading) :
    Except.toOption (match reading with
      | .ok v => .ok v
      | .error issues => .error (issues.map f) : Reading) = reading.toOption := by
  cases reading <;> rfl

theorem joinField_congr (key : String) {r s : Reading}
    {rest others : Except (List Issue) (List (String × Value))}
    (first : r.toOption = s.toOption) (later : rest.toOption = others.toOption) :
    (joinField key r rest).toOption = (joinField key s others).toOption := by
  unfold joinField
  split <;> split <;> simp_all [Except.toOption]

mutual

/-- Respelled values are read alike by a form that goes by the spellings. -/
theorem Form.read_respelled : ∀ (form : Form) (shape : Shape), form.goesBy shape = true →
    ∀ {v w : Value}, shape.Respells v w → (form.read v).toOption = (form.read w).toOption
  | .optional form, shape, goes, v, w, h => by
      simp only [Form.read, isNull_of_respells h]
      split
      · rfl
      · exact form.read_respelled shape goes h
  | .list form, .list items, goes, v, w, h => by
      rcases h with rfl | ⟨vs, ws, rfl, rfl, each⟩
      · rfl
      · have readings : List.Forall₂ (fun r s : Reading => r.toOption = s.toOption)
            (vs.map form.read) (ws.map form.read) := by
          rw [List.forall₂_map_left_iff, List.forall₂_map_right_iff]
          exact each.imp fun _ _ same => form.read_respelled items goes same
        simp only [Form.read, toOption_map, collect_congr readings]
  | .record fields, .record parts, goes, v, w, h => by
      rcases h with rfl | ⟨entries, others, kept, added, rfl, rfl, respelled, unknown, same, once⟩
      · rfl
      · have matched := Shapes.matched_of_respelled respelled unknown same once
        simp only [Form.read, toOption_map, fields.read_respelled parts goes matched]
  | form, .plain, _, v, w, h => by
      rw [show w = v from h]

theorem Fields.read_respelled : ∀ (fields : Fields) (parts : Shapes), fields.goBy parts = true →
    ∀ {entries others : List (String × Value)}, parts.Matched entries others →
      (fields.read entries).toOption = (fields.read others).toOption
  | .nil, _, _, _, _, _ => rfl
  | .cons key otherKeys fallback form rest, parts, goes, entries, others, matched => by
      unfold Fields.goBy at goes
      obtain ⟨goes, later⟩ := Bool.and_eq_true_iff.mp goes
      refine joinField_congr key ?_ (rest.read_respelled parts later matched)
      split at goes
      · cases goes
      · next name _ =>
          simp only [Bool.and_eq_true, List.all_eq_true, beq_iff_eq, Option.any_eq_true,
            List.contains_iff_mem] at goes
          obtain ⟨⟨only, all⟩, shape, shaped, inner⟩ := goes
          have spell (k : String) : k ∈ key :: otherKeys ↔ parts.nameOf? k = some name := by
            constructor
            · exact only k
            · intro named
              exact all k (Shapes.mem_spellings_of_nameOf? named)
          -- the keys of the field spell one part only, so it finds the entry for the part in both
          have found := matched.entryOf spell shaped
          generalize entryOf entries (key :: otherKeys) = first at found
          generalize entryOf others (key :: otherKeys) = second at found
          cases found with
          | none => rfl
          | @some entry other respelled =>
              have same := form.read_respelled shape inner respelled
              obtain ⟨k, v⟩ := entry
              obtain ⟨l, w⟩ := other
              exact (toOption_located _ _).trans (same.trans (toOption_located _ _).symm)

end

end CourseAudit.Payload

namespace CourseAudit
open Payload

/-- What is decoded does not depend on the spelling of keys, at whatever depth, nor on entries
that are no parts: tasks, sections and conditions out of respelled payloads are the same, and
where the one payload is refused so is the other. -/
theorem decoded_of_respelled (v w : Value) :
    (taskShape.Respells v w → (PlanTask.read v).toOption = (PlanTask.read w).toOption) ∧
    (sectionShape.Respells v w → (Section.read v).toOption = (Section.read w).toOption) ∧
    (conditionShape.Respells v w → (Condition.read v).toOption = (Condition.read w).toOption) := by
  refine ⟨?_, ?_, ?_⟩
  · intro respelled
    have read := task.read_respelled taskShape task_goesBy respelled
    simp only [PlanTask.read, toOption_map, read]
  · intro respelled
    have read := sectionRecord.read_respelled sectionShape section_goesBy respelled
    simp only [Section.read, toOption_map, read]
  · intro respelled
    have read := condition.read_respelled conditionShape condition_goesBy respelled
    simp only [Condition.read, toOption_map, read]

/-- A condition on quizzes as an editor writes it, a task that holds it, and a section. -/
def editedQuizzes : Value :=
  .dict [("groupType", .text "LMS Condition"), ("source", .text "Quiz"),
    ("subConditions", .list [.dict [("property", .text "Points"), ("value", .int 5)]])]

def editedTask : Value :=
  .dict [("displayType", .text "Number"),
    ("conditionGroups", .list [.dict [("conditions", .list [editedQuizzes])]])]

def editedSection : Value :=
  .dict [("lmsAssignments", .list [.dict [("name", .text "Essay"), ("dueDate", .int 20000)]]),
    ("crn", .text "10482"), ("attributeCreditHours", .int 3)]

/-- The same ones with low lines, and with entries that they do not have. -/
def storedQuizzes : Value :=
  .dict [("weight", .int 2), ("group_type", .text "LMS Condition"), ("source", .text "Quiz"),
    ("sub_conditions", .list [.dict [("property", .text "Points"), ("value", .int 5)]])]

def storedTask : Value :=
  .dict [("display_type", .text "Number"),
    ("condition_groups", .list [.dict [("conditions", .list [storedQuizzes]), ("note", .null)]])]

def storedSection : Value :=
  .dict [("assignments", .list [.dict [("name", .text "Essay"), ("due_date", .int 20000)]]),
    ("CRN", .text "10482"), ("attribute_credit_hours", .int 3), ("campus", .text "North")]

theorem storedQuizzes_respells : conditionShape.Respells editedQuizzes storedQuizzes := by
  refine .inr ⟨_, _, [("group_type", .text "LMS Condition"), ("source", .text "Quiz"),
    ("sub_conditions", .list [.dict [("property", .text "Points"), ("value", .int 5)]])],
    [("weight", .int 2)], rfl, rfl, ?_, ?_,
    @List.perm_append_comm _ [_] [_, _, _], ?_⟩
  · exact .cons (.of_named rfl rfl rfl rfl) (.cons (.of_named rfl rfl rfl rfl)
      (.cons (.of_named rfl rfl rfl (.refl _ _)) .nil))
  · simp; rfl
  · decide +kernel

theorem storedTask_respells : taskShape.Respells editedTask storedTask := by
  refine .inr ⟨_, _, _, [], rfl, rfl, ?_, ?_, .of_eq (List.append_nil _).symm, ?_⟩
  · refine .cons (.of_named rfl rfl rfl rfl) (.cons (.of_named rfl rfl rfl ?_) .nil)
    refine .inr ⟨_, _, rfl, rfl, .cons ?_ .nil⟩
    refine .inr ⟨_, _, [("conditions", .list [storedQuizzes])], [("note", .null)], rfl, rfl,
      ?_, ?_, .refl _, ?_⟩
    · refine .cons (.of_named rfl rfl rfl ?_) .nil
      exact .inr ⟨_, _, rfl, rfl, .cons storedQuizzes_respells .nil⟩
    · simp; rfl
    · decide +kernel
  · simp
  · decide +kernel

theorem storedSection_respells : sectionShape.Respells editedSection storedSection := by
  refine .inr ⟨_, _, [("assignments", .list [.dict [("name", .text "Essay"),
    ("due_date", .int 20000)]]), ("CRN", .text "10482"), ("attribute_credit_hours", .int 3)],
    [("campus", .text "North")], rfl, rfl, ?_, ?_, .refl _, ?_⟩
  · refine .cons (.of_named rfl rfl rfl ?_) (.cons (.of_named rfl rfl rfl rfl)
      (.cons (.of_named rfl rfl rfl rfl) .nil))
    refine .inr ⟨_, _, rfl, rfl, .cons ?_ .nil⟩
    refine .inr ⟨_, _, _, [], rfl, rfl, ?_, ?_, .of_eq (List.append_nil _).symm, ?_⟩
    · exact .cons (.of_named rfl rfl rfl rfl) (.cons (.of_named rfl rfl rfl rfl) .nil)
    · simp
    · decide +kernel
  · simp; rfl
  · decide +kernel

theorem decoded_stored :
    ((PlanTask.read editedTask).toOption = (PlanTask.read storedTask).toOption ∧
      (PlanTask.read storedTask).toOption.map (·.displayType) =
        some (.choice (.display .number))) ∧
    ((Section.read editedSection).toOption = (Section.read storedSection).toOption ∧
      (Section.read storedSection).toOption.map (fun s =>
        (s.crn, s.assignments.records.map (·.dueDate))) =
          some (.text "10482", [.int 20000])) ∧
    (Condition.read editedQuizzes).toOption = (Condition.read storedQuizzes).toOption ∧
      (Condition.read storedQuizzes).toOption.map (fun c =>
        (c.groupType, c.subConditions.records.map (·.property))) =
          some (.choice (.group .lms), [.text "Points"]) := by
  refine ⟨⟨?_, by rfl⟩, ⟨?_, by rfl⟩, ?_, by rfl⟩
  · exact (decoded_of_respelled editedTask storedTask).1 storedTask_respells
  · exact (decoded_of_respelled editedSection storedSection).2.1 storedSection_respells
  · exact (decoded_of_respelled editedQuizzes storedQuizzes).2.2 storedQuizzes_respells

end CourseAudit
