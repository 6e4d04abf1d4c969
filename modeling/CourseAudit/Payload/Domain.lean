import CourseAudit.Payload.Forms
import CourseAudit.Section.Basic
import CourseAudit.Task.Basic
import CourseAudit.Value.Vocabulary

/-!
Tasks and sections out of payloads that have been read by their forms, and conditions back into
the payloads that an editor takes.
-/
namespace CourseAudit

namespace Value

/-- The part of a record under a key, null when there is none. -/
def part (v : Value) (key : String) : Value :=
  match v with
  | .dict entries => (get? entries key).getD .null
  | _ => .null

/-- The items of a list; of anything else there are none. -/
def items : Value → List Value
  | .list vs | .tuple vs => vs
  | _ => []

end Value

def SubCondition.ofPayload (v : Value) : SubCondition :=
  ⟨v.part "id", v.part "property", v.part "operator", v.part "value"⟩

def SubCondition.payload (s : SubCondition) : Value :=
  .dict [("id", s.id), ("property", s.property), ("operator", s.operator), ("value", s.value)]

/-- The group type that a text names, as a value. -/
def GroupType.parsed (v : Value) : Value :=
  match v.asText?.bind GroupType.ofText? with
  | some g => .choice (.group g)
  | none => .null

/-- Sub-conditions that are null are none. -/
def Condition.ofPayload (v : Value) : Condition where
  id := v.part "id"
  groupType := GroupType.parsed (v.part "groupType")
  source := v.part "source"
  property := v.part "property"
  operator := v.part "operator"
  value := v.part "value"
  subConditions := .ofList ((v.part "subConditions").items.map SubCondition.ofPayload)

/-- The payload of a condition. A group type is written by its label. -/
def Condition.payload (c : Condition) : Value :=
  .dict [("id", c.id),
    ("groupType", match c.groupType.asText? with
      | some s => .text s
      | none => c.groupType),
    ("source", c.source), ("property", c.property), ("operator", c.operator), ("value", c.value),
    ("subConditions", .list (c.subConditions.records.map SubCondition.payload))]

def ConditionGroup.ofPayload (v : Value) : ConditionGroup :=
  ⟨v.part "id", .ofList ((v.part "conditions").items.map Condition.ofPayload)⟩

def Presentation.ofPayload (v : Value) : Presentation :=
  ⟨v.part "type", v.part "customName", v.part "icon"⟩

def PlanTask.ofPayload (v : Value) : PlanTask where
  id := v.part "id"
  term := v.part "term"
  name := v.part "name"
  description := v.part "description"
  groups := .ofList ((v.part "conditionGroups").items.map ConditionGroup.ofPayload)
  displayType := v.part "displayType"
  onPass := Presentation.ofPayload (v.part "conditionResult")
  onFailure := Presentation.ofPayload (v.part "conditionFailure")
  allowView := v.part "allowView"
  allowEdit := v.part "allowEdit"
  active := v.part "active"

def Component.ofPayload (v : Value) : Component where
  name := v.part "name"
  type := v.part "type"
  visible := v.part "visible"
  required := v.part "required"
  isPublic := v.part "public"
  sectionEditing := v.part "sectionEditing"
  courseEditing := v.part "courseEditing"
  helpText := v.part "helpText"
  ownFields := v.part "fields"

def LmsItem.ofPayload (v : Value) : LmsItem where
  name := v.part "name"
  publishState := v.part "publishState"
  lastUpdated := v.part "lastUpdated"
  graded := v.part "graded"
  dueDate := v.part "dueDate"
  dueOutsideTerm := v.part "dueOutsideTerm"
  rubricUsed := v.part "rubricUsed"
  anonymousGrading := v.part "anonymousGrading"
  instructorPost := v.part "instructorPost"
  points := v.part "points"
  averageScore := v.part "averageScore"
  completionRate := v.part "completionRate"
  inUse := v.part "inUse"

def LmsCourse.ofPayload (v : Value) : LmsCourse where
  publishState := v.part "publishState"
  name := v.part "name"
  lastUpdated := v.part "lastUpdated"
  crossListed := v.part "crossListed"
  startDate := v.part "startDate"
  endDate := v.part "endDate"
  studentCount := v.part "studentCount"
  mostRecentEnrollment := v.part "mostRecentEnrollment"
  instructorAssigned := v.part "instructorAssigned"
  createdDate := v.part "createdDate"

/-- The credit hours of a section stand in where the course names none. -/
def CourseAttributes.ofPayload (v sectionHours : Value) : CourseAttributes where
  subject := v.part "subject"
  courseNumber := v.part "courseNumber"
  title := v.part "title"
  parentOrganization := v.part "parentOrganization"
  term := v.part "term"
  catalogDescription := v.part "catalogDescription"
  prerequisite := v.part "prerequisite"
  creditHours := if (v.part "creditHours").isNull then sectionHours else v.part "creditHours"

/-- Of a section only the course shell may be null. -/
def Section.ofPayload (v : Value) : Section :=
  let list (key : String) : Slots LmsItem := .ofList ((v.part key).items.map LmsItem.ofPayload)
  { id := v.part "id"
    name := v.part "name"
    term := v.part "term"
    publishState := v.part "publishState"
    status := v.part "status"
    materialCount := v.part "materialCount"
    objectiveCount := v.part "objectiveCount"
    instructorCount := v.part "instructorCount"
    completedDate := v.part "completedDate"
    syllabusAccess := v.part "syllabusAccess"
    studentEngagement := v.part "studentEngagement"
    components := .ofList ((v.part "components").items.map Component.ofPayload)
    assignments := list "assignments"
    discussions := list "discussions"
    documents := list "documents"
    modules := list "modules"
    pages := list "pages"
    quizzes := list "quizzes"
    rubrics := list "rubrics"
    surveys := list "surveys"
    lmsCourse :=
      if (v.part "lmsCourse").isNull then .other .null else LmsCourse.ofPayload (v.part "lmsCourse")
    course := CourseAttributes.ofPayload (v.part "course") (v.part "attributeCreditHours")
    crn := v.part "crn"
    deliveryMethod := v.part "deliveryMethod"
    timezone := v.part "timezone"
    syllabusDueDate := v.part "syllabusDueDate"
    subject := v.part "subject"
    courseNumber := v.part "courseNumber"
    title := v.part "title" }

/-- The task that a payload holds, unless its form is not that of a task. -/
def PlanTask.read (payload : Value) : Except (List Issue) PlanTask :=
  (Payload.task.read payload).map ofPayload

def Section.read (payload : Value) : Except (List Issue) Section :=
  (Payload.sectionRecord.read payload).map ofPayload

def Condition.read (payload : Value) : Except (List Issue) Condition :=
  (Payload.condition.read payload).map ofPayload

end CourseAudit
