import CourseAudit.Catalog.Basic

/-!
The standard catalog: the properties of syllabuses, of course shells in a learning management
system, and of courses and sections.
-/
namespace CourseAudit.Catalog.Standard

def rule (valueType : ValueType) (operators : List Value) : PropertyRule :=
  ⟨valueType, [], operators, [], false⟩

/-- A choice among options, compared by the given operators. -/
def select (operators : List Operator) (options : List String) : PropertyRule :=
  ⟨.select, options.map .text, PropertyRule.labels operators, [], false⟩

/-- A choice that may also be ruled out. -/
def choice (options : List String) : PropertyRule := select [.is, .isNot] options

/-- A choice that can only be asked for. -/
def only (options : List String) : PropertyRule := select [.is] options

def text : PropertyRule := rule .text PropertyRule.textOperators

def date : PropertyRule := rule .date PropertyRule.dateOperators

def numeric : PropertyRule := rule .numeric []

def presenceOperators : List Value := PropertyRule.labels [.isPresent, .isNotPresent]

def presence : PropertyRule := rule .none presenceOperators

/-- What stands before the name of a component's own field. -/
def fieldMark : String := "Field - "

def componentProperties : Properties :=
  [("Name", text), ("Required", choice ["Required", "Not Required"]),
    ("Visible", choice ["Visible", "Not Visible"]),
    ("Public/Private", choice ["Public", "Private"]),
    ("Section editing", choice ["Enabled", "Not Enabled"]),
    ("Course editing", choice ["Enabled", "Not Enabled"]), ("Help Text", text)]

def materialFields : List String :=
  ["Title", "Subtitle", "ISBN", "Description", "Thumbnail", "Authors", "Published", "URL", "Notes"]

/-- The fields that a component has of its own. -/
def ownFields : List (String × List String) :=
  [("Instructor Information",
      ["Name", "Title", "Email", "Phone", "Office location", "Office Hours", "Instructor Photo"]),
    ("Course Objective", ["Objective", "Bloom's Taxonomy", "Assessment Method"]),
    ("Required materials", materialFields), ("Optional materials", materialFields)]

/-- What sub-conditions may look at in a component of a name. -/
def propertiesOfComponent (name : String) : Properties :=
  componentProperties ++
    ((ownFields.lookup name).getD []).map fun field => (fieldMark ++ field, text)

def componentNames : List String :=
  ["Instructor Information", "Required materials", "Optional materials", "Grading scheme",
    "Program outcomes", "Course overview", "Class schedule", "Course Objective",
    "Student engagement (syllabus)"]

def componentTypes : List String :=
  ["Content", "Instructor", "Internal", "Materials", "Objectives", "Quick Pick", "Schedule"]

/-- Properties of every kind of item. -/
def itemProperties : Properties :=
  [("Name", text), ("Publish State", only ["Published", "Unpublished"]), ("Last Updated", date)]

/-- Properties of items that may be graded. -/
def gradableProperties : Properties :=
  itemProperties ++
    [("Graded", only ["Graded", "Not Graded"]), ("Due Date", date),
      ("Due Date relative to Term", only ["Outside term dates", "Not outside term dates"]),
      ("Rubric", only ["Used", "Not Used"])]

def assignmentProperties : Properties :=
  gradableProperties ++ [("Anonymous Grading", only ["On", "Off"])]

/-- Properties of items that an instructor may post to. -/
def postableProperties : Properties :=
  gradableProperties ++
    [("Instructor Post", rule .none (PropertyRule.labels [.exists, .doesNotExist]))]

/-- The number of items that satisfy the sub-conditions. -/
def count (items : Properties) : String × PropertyRule :=
  ("Total Count", ⟨.numeric, [], [], items, false⟩)

/-- The same number in percent of a given one; without sub-conditions it would say nothing. -/
def percent (items : Properties) : String × PropertyRule :=
  ("Total Percent", ⟨.numeric, [], [], items, true⟩)

def points : String × PropertyRule := ("Total Points", numeric)

def syllabusSources : Sources :=
  [(SyllabusSource.details.label,
      [("Publish State", choice ["Published", "Not Published"]),
        ("Status",
          choice ["Not Started", "In progress", "Awaiting approval", "Completed", "Inactive"]),
        ("Completed date", rule .date (PropertyRule.labels [.isBefore, .isAfter, .isOn])),
        ("Material count", numeric), ("Objective count", numeric), ("Instructor count", numeric),
        ("Component count", numeric),
        ("Syllabus Access", choice ["General Public", "Campus Community", "Private Access"]),
        ("Student engagement", numeric)]),
    (SyllabusSource.componentByName.label,
      componentNames.map fun name =>
        (name, ⟨.none, [], presenceOperators, propertiesOfComponent name, false⟩)),
    (SyllabusSource.componentByType.label, componentTypes.map fun name => (name, presence))]

def courseProperties : Properties :=
  [("Publish State", only ["Published", "Unpublished"]), ("Name", text), ("Last Updated", date),
    ("Cross-listed", only ["Yes", "No"]), ("Start date", date), ("End date", date),
    ("Student count", numeric), ("Most recent enrollment", date),
    ("Instructor assigned", only ["Yes", "No"]), ("Created date", date)]

def lmsSources : Sources :=
  [(LmsSource.assignments.label,
      [count assignmentProperties, points, percent assignmentProperties]),
    (LmsSource.course.label, courseProperties),
    (LmsSource.discussions.label, [count postableProperties, points, percent postableProperties]),
    (LmsSource.documents.label, [count itemProperties, percent itemProperties]),
    (LmsSource.modules.label, [count itemProperties, percent itemProperties]),
    (LmsSource.pages.label, [count itemProperties, percent itemProperties]),
    (LmsSource.quiz.label,
      [count postableProperties, ("Average Score", numeric), points, percent postableProperties]),
    (LmsSource.rubrics.label,
      [count itemProperties,
        ("Is Used", rule .none (PropertyRule.labels [.isTrue, .isFalse]))]),
    (LmsSource.survey.label,
      [count postableProperties, ("Completion Rate", numeric), percent postableProperties])]

def attributeSources : Sources :=
  [(AttributeSource.course.label,
      [("Subject", text), ("Course number", text), ("Title", text), ("Parent organization", text),
        ("Term", text), ("Catalog description", text), ("Prerequisite", text),
        ("Credit hours", rule .numeric PropertyRule.numericOperators)]),
    (AttributeSource.section.label,
      [("Name", text), ("Course number", text), ("Title", text), ("Syllabus due date", date),
        ("Timezone", text), ("Term", text), ("Subject", text),
        ("Delivery method", choice ["Online", "In-Person", "Hybrid"]), ("CRN", text)])]

end Standard

def standardVersion : Value := .text "2025.1"

/-- The catalog in use unless another one is given. -/
def standard : Catalog where
  version := standardVersion
  groups := [(.syllabus, Standard.syllabusSources), (.lms, Standard.lmsSources),
    (.attribute, Standard.attributeSources)]

end CourseAudit.Catalog
