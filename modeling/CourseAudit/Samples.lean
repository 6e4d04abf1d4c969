import CourseAudit.Fault
import CourseAudit.Value.Written
import CourseAudit.Vocabulary.Choice

/-!
Sample payloads of tasks and sections, as an editor and a document service would send them. Each
builder has named parameters with defaults; some take further entries as they are.
-/
namespace CourseAudit.Samples

/-- Named values. -/
abbrev Entries := List (String × Value)

/-- The parameters of a builder in order. One without a default has to be given. -/
structure Signature where
  parameters : List (String × Option Value)
  takesMore : Bool

/-- The given values by parameter, and the entries beyond them. -/
structure Arguments where
  values : Entries
  more : Entries

namespace Arguments

def value (a : Arguments) (name : String) : Value := (Value.get? a.values name).getD .null

end Arguments

/-- The values of parameters: first those given by place, then those given by name, then defaults.
A value that is missing, given twice or of no parameter is a mismatch. -/
def bindParameters (named : Entries) : List (String × Option Value) → List Value →
    Except Fault Entries
  | [], [] => .ok []
  | [], _ :: _ => .error .mismatch
  | (name, _) :: rest, v :: vs =>
    if (Value.get? named name).isSome then .error .mismatch
    else (bindParameters named rest vs).map ((name, v) :: ·)
  | (name, fallback) :: rest, [] =>
    match Value.get? named name, fallback with
    | some v, _ | none, some v => (bindParameters named rest []).map ((name, v) :: ·)
    | none, none => .error .mismatch

namespace Signature

def bind (s : Signature) (placed : List Value) (named : Entries) : Except Fault Arguments := do
  let values ← bindParameters named s.parameters placed
  let more := named.filter fun entry => !s.parameters.any (·.1 == entry.1)
  if more.isEmpty || s.takesMore then return ⟨values, more⟩ else .error .mismatch

end Signature

/-- Entries replaced and added in order. -/
def update (entries more : Entries) : Entries :=
  more.foldl (fun found (name, v) => Value.put name v found) entries

def text (s : String) : Value := .text s

def one : Value := .int 1

def subConditionSignature : Signature :=
  ⟨[("property", none), ("operator", none), ("value", some .null), ("id", some one)], false⟩

def subCondition (a : Arguments) : Value :=
  .dict [("id", a.value "id"), ("property", a.value "property"), ("operator", a.value "operator"),
    ("value", a.value "value")]

def conditionSignature : Signature :=
  ⟨[("group_type", none), ("source", none), ("property", none), ("operator", some (text "")),
    ("value", some .null), ("sub_conditions", some .null), ("id", some one)], false⟩

/-- Sub-conditions are left out when there are none to speak of. -/
def condition (a : Arguments) : Value :=
  let subs := a.value "sub_conditions"
  .dict ([("id", a.value "id"), ("groupType", a.value "group_type"), ("source", a.value "source"),
    ("property", a.value "property"), ("operator", a.value "operator"),
    ("value", a.value "value")] ++ if subs.isNull then [] else [("subConditions", subs)])

def groupSignature : Signature := ⟨[("conditions", none), ("id", some one)], false⟩

def group (conditions id : Value) : Value := .dict [("id", id), ("conditions", conditions)]

def defaultTaskName : Value := text "Syllabus published"

def taskSignature : Signature :=
  ⟨[("groups", some .null), ("name", some defaultTaskName),
    ("display_type", some (text DisplayType.yesNo.label)), ("id", some one)], true⟩

def resultOf (type : ResultType) : Value := .dict [("type", text type.label)]

def task (groups name displayType id : Value) (more : Entries) : Value :=
  .dict (update [("id", id), ("term", text "Fall 2025"), ("name", name), ("description", text ""),
    ("conditionGroups", if groups.isSet then groups else .list []), ("displayType", displayType),
    ("conditionResult", resultOf .pass), ("conditionFailure", resultOf .fail),
    ("allowView", .bool true), ("allowEdit", .bool false), ("active", .bool true)] more)

def taskOf (a : Arguments) : Value :=
  task (a.value "groups") (a.value "name") (a.value "display_type") (a.value "id") a.more

def singleConditionSignature : Signature :=
  ⟨[("condition", none), ("display_type", some (text DisplayType.yesNo.label))], true⟩

/-- A task with one group of one condition. Its groups cannot be given again. -/
def singleConditionTask (a : Arguments) : Except Fault Value := do
  let named := ("display_type", a.value "display_type") :: a.more
  let groups := Value.list [group (.list [a.value "condition"]) one]
  return taskOf (← taskSignature.bind [groups] named)

def assignmentSignature : Signature :=
  ⟨[("name", none), ("publish_state", some (text "Published")), ("graded", some (.bool true)),
    ("due_date", some .null)], true⟩

def assignment (name publishState graded dueDate : Value) (more : Entries) : Value :=
  .dict (update [("name", name), ("publishState", publishState), ("graded", graded),
    ("dueDate", dueDate)] more)

def componentSignature : Signature :=
  ⟨[("name", none), ("type", some .null), ("visible", some (.bool true))], true⟩

def component (name type visible : Value) (more : Entries) : Value :=
  .dict (update [("name", name), ("type", type), ("visible", visible)] more)

/-- The two components of a section, the second with a title. -/
def sampleComponents : Value :=
  .list [component (text "Instructor Information") (text "Instructor") (.bool true) [],
    component (text "Required materials") (text "Materials") (.bool true)
      [("required", .bool true), ("fields", .dict [("Title", text "Financial Accounting")])]]

/-- Two published assignments and one that is neither published nor graded. -/
def sampleAssignments : Value :=
  let homework (name due : String) : Value :=
    assignment (text name) (text "Published") (.bool true) (text due) []
  .list [homework "Homework 1" "2025-09-15T23:59:59Z", homework "Homework 2" "2025-09-22T23:59:59Z",
    assignment (text "Midterm Outline") (text "Unpublished") (.bool false) .null []]

def sectionSignature : Signature :=
  ⟨[("id", some (.int 2)), ("name", some (text "ACT 1100 1"))], true⟩

/-- A published section with three assignments. -/
def sectionOf (id name : Value) (more : Entries) : Value :=
  .dict (update [("id", id), ("name", name), ("term", text "Fall 2025"),
    ("publishState", text "Published"), ("status", text "Completed"), ("materialCount", .int 5),
    ("objectiveCount", .int 3), ("instructorCount", .int 1),
    ("completedDate", text "2025-09-01T10:00:00Z"), ("components", sampleComponents),
    ("lmsAssignments", sampleAssignments), ("attributeCreditHours", .int 3),
    ("crn", text "10001"), ("deliveryMethod", text "Online"), ("subject", text "ACT"),
    ("courseNumber", text "1100"), ("title", text "Principles of Accounting")] more)

/-- A small catalog of sections that comply to different degrees. -/
def sections : Value :=
  .list [sectionOf (.int 2) (text "ACT 1100 1") [],
    sectionOf (.int 3) (text "ACT 2100 1")
      [("publishState", text "Not Published"), ("status", text "In progress"),
        ("materialCount", one), ("completedDate", .null),
        ("components",
          .list [component (text "Instructor Information") (text "Instructor") (.bool false) []]),
        ("lmsAssignments",
          .list [assignment (text "Project Proposal") (text "Published") (.bool true)
            (text "2025-10-01T23:59:59Z") []])],
    sectionOf (.int 4) (text "ACT 2100 2")
      [("publishState", text "Not Published"), ("status", text "Not Started"),
        ("materialCount", .int 0), ("completedDate", .null), ("components", .list []),
        ("lmsAssignments", .list []), ("attributeCreditHours", .int 4)],
    sectionOf (.int 5) (text "BIO 101 1")
      [("publishState", text "Published"), ("status", text "Awaiting approval"),
        ("materialCount", .int 3), ("completedDate", .null), ("subject", text "BIO"),
        ("attributeCreditHours", .int 4)]]

/-- A condition that compares with a value. -/
def comparison (groupType source property operator : String) (value : Value) (id : Int)
    (subs : Value) : Value :=
  condition ⟨[("group_type", text groupType), ("source", text source), ("property", text property),
    ("operator", text operator), ("value", value), ("sub_conditions", subs), ("id", .int id)], []⟩

def filter (property operator : String) (value : Value) (id : Int) : Value :=
  subCondition ⟨[("property", text property), ("operator", text operator), ("value", value),
    ("id", .int id)], []⟩

/-- Tasks like those of the usual plan: one with two groups, one with sub-conditions on a component,
one decided by hand. -/
def tasks : Value :=
  let yesNo := text DisplayType.yesNo.label
  let syllabus := GroupType.syllabus.label
  let details := SyllabusSource.details.label
  .list [
    task (.list [
      group (.list [
        comparison syllabus details "Publish State" Operator.is.label (text "Published") 1 .null,
        comparison syllabus details "Material count" Operator.atLeast.label (.int 3) 2 .null])
        (.int 1),
      group (.list [
        comparison GroupType.lms.label LmsSource.assignments.label "Total Count"
          Operator.atLeast.label (.int 3) 3
          (.list [filter "Publish State" Operator.is.label (text "Published") 1,
            filter "Graded" Operator.is.label (text "Graded") 2])])
        (.int 2)])
      (text "Syllabus ready") yesNo (.int 1) [],
    task (.list [
      group (.list [
        comparison syllabus SyllabusSource.componentByName.label "Required materials"
          Operator.isPresent.label .null 4
          (.list [filter "Required" Operator.is.label (text "Required") 3,
            filter "Field - Title" Operator.isNotEmpty.label (text "") 4])])
        (.int 3)])
      (text "Materials listed") yesNo (.int 2) [],
    task (.list []) (text "Instructor sign-off") yesNo (.int 3) []]

def noParameters : Signature := ⟨[], false⟩

/-- The builders by name. -/
def builders : List (String × Signature × (Arguments → Except Fault Value)) :=
  [("sub_condition", subConditionSignature, fun a => .ok (subCondition a)),
    ("condition", conditionSignature, fun a => .ok (condition a)),
    ("group", groupSignature, fun a => .ok (group (a.value "conditions") (a.value "id"))),
    ("task", taskSignature, fun a => .ok (taskOf a)),
    ("single_condition_task", singleConditionSignature, singleConditionTask),
    ("assignment", assignmentSignature, fun a => .ok (assignment (a.value "name")
      (a.value "publish_state") (a.value "graded") (a.value "due_date") a.more)),
    ("component", componentSignature, fun a => .ok (component (a.value "name") (a.value "type")
      (a.value "visible") a.more)),
    ("section", sectionSignature, fun a => .ok (sectionOf (a.value "id") (a.value "name") a.more)),
    ("create_test_sections", noParameters, fun _ => .ok sections),
    ("create_sample_tasks", noParameters, fun _ => .ok tasks)]

/-- A sample by the name of its builder; there may be none of the name. -/
def build (name : String) (placed : List Value) (named : Entries) : Except Fault Value := do
  match builders.lookup name with
  | none => .error .absent
  | some (signature, make) => make (← signature.bind placed named)

end CourseAudit.Samples
