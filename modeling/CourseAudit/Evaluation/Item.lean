import CourseAudit.Catalog.Standard
import CourseAudit.Comparison
import CourseAudit.Section.Basic
import CourseAudit.Task.Basic

/-!
Sub-conditions on items. An item satisfies a condition's sub-conditions when each of them holds of
the part of the item that it names; a part that the catalog does not know of is never there.
-/
namespace CourseAudit

/-- One of two words by whether a value is set; none when there is no value. -/
def worded (flag : Value) (on off : String) : Value :=
  if flag.isNull then .null else .text (if flag.isSet then on else off)

namespace LmsItem

/-- The properties of an item that sub-conditions may name. -/
def properties : List (String × (LmsItem → Value)) :=
  [("Name", (·.name)), ("Publish State", (·.publishState)), ("Last Updated", (·.lastUpdated)),
    ("Graded", fun i => worded i.graded "Graded" "Not Graded"), ("Due Date", (·.dueDate)),
    ("Due Date relative to Term",
      fun i => worded i.dueOutsideTerm "Outside term dates" "Not outside term dates"),
    ("Rubric", fun i => worded i.rubricUsed "Used" "Not Used"),
    ("Anonymous Grading", fun i => worded i.anonymousGrading "On" "Off"),
    ("Instructor Post", (·.instructorPost))]

/-- A property of an item; one that items do not have is null. -/
def property (name : String) (i : Slot LmsItem) : Except Fault Value :=
  match properties.lookup name with
  | some read => i.get.map read
  | none => .ok .null

end LmsItem

namespace Component

/-- The properties of a component that sub-conditions may name, apart from its own fields. -/
def properties : List (String × (Component → Value)) :=
  [("Name", (·.name)), ("Required", fun c => worded c.required "Required" "Not Required"),
    ("Visible", fun c => worded c.visible "Visible" "Not Visible"),
    ("Public/Private", fun c => worded c.isPublic "Public" "Private"),
    ("Section editing", fun c => worded c.sectionEditing "Enabled" "Not Enabled"),
    ("Course editing", fun c => worded c.courseEditing "Enabled" "Not Enabled"),
    ("Help Text", (·.helpText))]

/-- One of the component's own fields. -/
def ownField (name : String) (c : Component) : Except Fault Value :=
  match c.ownFields with
  | .dict entries => .ok ((Value.get? entries name).getD .null)
  | _ => .error .absent

/-- A property of a component; one that components do not have is null. -/
def property (name : String) (c : Component) : Except Fault Value :=
  let mark := Catalog.Standard.fieldMark.toList
  if mark.isPrefixOf name.toList then
    c.ownField (String.ofList (name.toList.drop mark.length))
  else
    match properties.lookup name with
    | some read => .ok (read c)
    | none => .ok .null

end Component

namespace SubCondition

/-- Whether a sub-condition holds of an item whose properties are read by `property`. `rule` is the
rule of the property of its condition. -/
def holdsOf (context : EvaluationContext) (rule : Option PropertyRule)
    (property : String → Except Fault Value) (s : SubCondition) : Test := do
  let actual ← match ← Catalog.itemRule? rule s.property with
    | none => pure Value.null
    | some _ => property (s.property.asText?.getD "")
  holds context actual s.operator s.value

/-- Whether every sub-condition holds of an item. -/
def allHold (context : EvaluationContext) (rule : Option PropertyRule)
    (property : String → Except Fault Value) (subs : Slots SubCondition) : Test := do
  Test.all (Slot.test (holdsOf context rule property)) (← subs.members)

end SubCondition

/-- The items that satisfy all sub-conditions, in order. -/
def filterItems (context : EvaluationContext) (rule : Option PropertyRule)
    (subs : Slots SubCondition) (items : List (Slot LmsItem)) :
    Except Fault (List (Slot LmsItem)) :=
  let holds (i : Slot LmsItem) : Test :=
    SubCondition.allHold context rule (fun name => LmsItem.property name i) subs
  Test.filter holds items

end CourseAudit
