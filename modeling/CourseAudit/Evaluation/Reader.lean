import CourseAudit.Evaluation.Aggregate
import CourseAudit.Evaluation.Item
import CourseAudit.Value.Vocabulary

/-!
How properties are read from a section. A table says for each property of the standard catalog
which part of a section it reads; components are read by their source alone, whatever their names.
-/
namespace CourseAudit

/-- What is measured of a list of items. -/
inductive Measure
  | count | points | percent | averageScore | completionRate | inUse
deriving DecidableEq, Repr

/-- The part of a section that a property reads. -/
inductive Reader
  | field (get : Section → Value)
  | componentCount
  | componentOfName
  | componentOfType
  | measure (items : Section → Slots LmsItem) (m : Measure)
  | shell (get : LmsCourse → Value)
  | courseEntry (get : CourseAttributes → Value)

namespace Reader

def detailParts : List (String × (Section → Value)) :=
  [("Publish State", (·.publishState)), ("Status", (·.status)),
    ("Completed date", (·.completedDate)), ("Material count", (·.materialCount)),
    ("Objective count", (·.objectiveCount)), ("Instructor count", (·.instructorCount)),
    ("Syllabus Access", (·.syllabusAccess)), ("Student engagement", (·.studentEngagement))]

/-- The lists of items by source, with what is measured of each under which names. -/
def itemLists : List (LmsSource × (Section → Slots LmsItem) × List (String × Measure)) :=
  let count := ("Total Count", Measure.count)
  let points := ("Total Points", Measure.points)
  let percent := ("Total Percent", Measure.percent)
  [(.assignments, (·.assignments), [count, points, percent]),
    (.discussions, (·.discussions), [count, points, percent]),
    (.documents, (·.documents), [count, percent]), (.modules, (·.modules), [count, percent]),
    (.pages, (·.pages), [count, percent]),
    (.quiz, (·.quizzes), [count, ("Average Score", .averageScore), points, percent]),
    (.rubrics, (·.rubrics), [count, ("Is Used", .inUse)]),
    (.survey, (·.surveys), [count, ("Completion Rate", .completionRate), percent])]

def shellParts : List (String × (LmsCourse → Value)) :=
  [("Publish State", (·.publishState)), ("Name", (·.name)), ("Last Updated", (·.lastUpdated)),
    ("Cross-listed", fun c => worded c.crossListed "Yes" "No"), ("Start date", (·.startDate)),
    ("End date", (·.endDate)), ("Student count", (·.studentCount)),
    ("Most recent enrollment", (·.mostRecentEnrollment)),
    ("Instructor assigned", fun c => worded c.instructorAssigned "Yes" "No"),
    ("Created date", (·.createdDate))]

def courseParts : List (String × (CourseAttributes → Value)) :=
  [("Subject", (·.subject)), ("Course number", (·.courseNumber)), ("Title", (·.title)),
    ("Parent organization", (·.parentOrganization)), ("Term", (·.term)),
    ("Catalog description", (·.catalogDescription)), ("Prerequisite", (·.prerequisite)),
    ("Credit hours", (·.creditHours))]

def sectionParts : List (String × (Section → Value)) :=
  [("Name", (·.name)), ("Course number", (·.courseNumber)), ("Title", (·.title)),
    ("Syllabus due date", (·.syllabusDueDate)), ("Timezone", (·.timezone)), ("Term", (·.term)),
    ("Subject", (·.subject)), ("Delivery method", (·.deliveryMethod)), ("CRN", (·.crn))]

/-- The readers of one source, under the names of their properties. -/
def ofParts {P : Type} (group : GroupType) (source : String) (reader : P → Reader)
    (parts : List (String × P)) : List (PropertyKey × Reader) :=
  parts.map fun (name, part) => (⟨group, source, name⟩, reader part)

/-- The readers of all properties that have names of their own. -/
def table : List (PropertyKey × Reader) :=
  ofParts .syllabus SyllabusSource.details.label .field detailParts ++
    [(⟨.syllabus, SyllabusSource.details.label, "Component count"⟩, .componentCount)] ++
    itemLists.flatMap (fun (source, items, measures) =>
      ofParts .lms source.label (.measure items) measures) ++
    ofParts .lms LmsSource.course.label .shell shellParts ++
    ofParts .attribute AttributeSource.course.label .courseEntry courseParts ++
    ofParts .attribute AttributeSource.section.label .field sectionParts

/-- The reader of a source whose properties are names of components. -/
def ofSource? (group : GroupType) (source : String) : Option Reader :=
  if group = .syllabus ∧ source = SyllabusSource.componentByName.label then some .componentOfName
  else if group = .syllabus ∧ source = SyllabusSource.componentByType.label then
    some .componentOfType
  else none

/-- The reader of a property: its own, or else that of its source. -/
def ofKey? (key : PropertyKey) : Option Reader :=
  match table.lookup key with
  | some reader => some reader
  | none => ofSource? key.group key.source

/-- The reader of the property that a condition names. A source that is read as a whole has one for
any property; a source or property that can be no key is a fault. -/
def ofCondition? (c : Condition) : Except Fault (Option Reader) := do
  match ← GroupType.ofValue? c.groupType with
  | none => return none
  | some group =>
    let source ← c.source.key
    let property ← c.property.key
    match source, property with
    | some s, some p => return ofKey? ⟨group, s, p⟩
    | some s, none => return ofSource? group s
    | none, _ => return none

end Reader

/-- What is measured of the items of a condition's property that satisfy its sub-conditions. For a
percentage, the value of the condition is the whole. -/
def Measure.of (context : EvaluationContext) (c : Condition) (items : List (Slot LmsItem)) :
    Measure → Except Fault Value
  | .count => .ok (.int items.length)
  | .points => sumOf (fun i => i.get.map (·.points)) items
  | .percent => do
    match ← percentOf (.int items.length) (context.resolve c.value) with
    | some i => return .int i
    | none => return .null
  | .averageScore => do meanOfPresent (← items.mapM fun i => i.get.map (·.averageScore))
  | .completionRate => do meanOfPresent (← items.mapM fun i => i.get.map (·.completionRate))
  | .inUse => (Test.any (Slot.test fun i => .ok i.inUse.isSet) items).map .bool

/-- The first component of a name, looked for up to where it is. -/
def findComponent (name : Value) : List (Slot Component) → Except Fault (Option Component)
  | [] => .ok none
  | slot :: rest => do
    let c ← slot.get
    if c.name.same name then return some c else findComponent name rest

/-- Whether a component of the name of a condition's property is there and satisfies the
sub-conditions. Only asked for by the operators of presence. -/
def readComponent (context : EvaluationContext) (rule : Option PropertyRule) (c : Condition)
    (s : Slot Section) : Except Fault Value :=
  match Operator.ofValue? c.operator with
  | some .isPresent | some .isNotPresent => do
    match ← findComponent c.property (← (← s.get).components.members) with
    | none => return .bool false
    | some found =>
      if c.subConditions.isSet then
        (SubCondition.allHold context rule (fun name => found.property name)
          c.subConditions).map .bool
      else return .bool true
  | _ => .ok .null

/-- Whether a component is of a type, apart from outer blanks and capitals. -/
def Component.isOfType (wanted : String) (c : Component) : Test :=
  if c.type.isSet then
    match c.type.asText? with
    | some s => .ok (Text.lower (Text.trim s) == wanted)
    | none => .error .absent
  else .ok ("" == wanted)

/-- Whether some component is of the type that a condition's property names. -/
def readComponentType (c : Condition) (s : Slot Section) : Except Fault Value :=
  match c.property.asText? with
  | some name => do
    let components ← (← s.get).components.members
    (Test.any (Slot.test (Component.isOfType (Text.lower (Text.trim name)))) components).map .bool
  | none => .error .absent

/-- The value that a reader finds in a section. A course shell that is null has null parts, and so
have course attributes that are none. -/
def Reader.read (context : EvaluationContext) (rule : Option PropertyRule) (c : Condition)
    (s : Slot Section) : Reader → Except Fault Value
  | .field get => s.get.map get
  | .componentCount => do return .int (← (← s.get).components.size)
  | .componentOfName => readComponent context rule c s
  | .componentOfType => readComponentType c s
  | .measure items m => do
    m.of context c (← filterItems context rule c.subConditions (← (items (← s.get)).members))
  | .shell get => do
    let shell := (← s.get).lmsCourse
    if shell.isNull then return .null else shell.get.map get
  | .courseEntry get => do
    match (← s.get).course with
    | .own found _ => return get found
    | .other _ => return .null

/-- The rule that a catalog has for the property of a condition. -/
def Catalog.ruleOf (catalog : Catalog) (c : Condition) : Except Fault (Option PropertyRule) :=
  catalog.lookup c.groupType c.source c.property

/-- The value that a condition compares. What the catalog does not know, or has no reader, is
null. -/
def Condition.resolve (catalog : Catalog) (context : EvaluationContext) (c : Condition)
    (s : Slot Section) : Except Fault Value := do
  match ← catalog.ruleOf c with
  | none => return .null
  | some rule =>
    match ← Reader.ofCondition? c with
    | none => return .null
    | some reader => reader.read context (some rule) c s

end CourseAudit
