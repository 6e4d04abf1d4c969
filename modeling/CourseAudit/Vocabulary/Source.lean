/-!
Where the values of conditions come from: the type of a condition group and, for each type, the
sources that it offers.
-/
namespace CourseAudit

/-- The part of a course that a condition looks at. -/
inductive GroupType
  | syllabus | lms | attribute
deriving DecidableEq, Repr

namespace GroupType

/-- Every member, in order of declaration. -/
def all : List GroupType :=
  [.syllabus, .lms, .attribute]

/-- The name that tasks and answers use. -/
def label : GroupType → String
  | .syllabus => "Syllabus condition"
  | .lms => "LMS Condition"
  | .attribute => "Attribute condition"

/-- The name under which the member is written inside other texts. -/
def constant : GroupType → String
  | .syllabus => "ConditionGroupType.SYLLABUS"
  | .lms => "ConditionGroupType.LMS"
  | .attribute => "ConditionGroupType.ATTRIBUTE"

/-- The member with a label. -/
def ofLabel? (s : String) : Option GroupType := all.find? (·.label == s)

end GroupType

/-- Sources of syllabus conditions. -/
inductive SyllabusSource
  | details | componentByName | componentByType
deriving DecidableEq, Repr

namespace SyllabusSource

/-- Every member, in order of declaration. -/
def all : List SyllabusSource :=
  [.details, .componentByName, .componentByType]

/-- The name that tasks and answers use. -/
def label : SyllabusSource → String
  | .details => "Syllabus Details"
  | .componentByName => "Component by name"
  | .componentByType => "Component by type"

/-- The name under which the member is written inside other texts. -/
def constant : SyllabusSource → String
  | .details => "SyllabusSource.DETAILS"
  | .componentByName => "SyllabusSource.COMPONENT_BY_NAME"
  | .componentByType => "SyllabusSource.COMPONENT_BY_TYPE"

/-- The member with a label. -/
def ofLabel? (s : String) : Option SyllabusSource := all.find? (·.label == s)

end SyllabusSource

/-- Sources in the learning management system. -/
inductive LmsSource
  | assignments | course | discussions | documents | modules | pages | quiz | rubrics | survey
deriving DecidableEq, Repr

namespace LmsSource

/-- Every member, in order of declaration. -/
def all : List LmsSource :=
  [.assignments, .course, .discussions, .documents, .modules, .pages, .quiz, .rubrics, .survey]

/-- The name that tasks and answers use. -/
def label : LmsSource → String
  | .assignments => "Assignments"
  | .course => "Course"
  | .discussions => "Discussions"
  | .documents => "Documents"
  | .modules => "Modules"
  | .pages => "Pages"
  | .quiz => "Quiz"
  | .rubrics => "Rubrics"
  | .survey => "Survey"

/-- The name under which the member is written inside other texts. -/
def constant : LmsSource → String
  | .assignments => "LmsSource.ASSIGNMENTS"
  | .course => "LmsSource.COURSE"
  | .discussions => "LmsSource.DISCUSSIONS"
  | .documents => "LmsSource.DOCUMENTS"
  | .modules => "LmsSource.MODULES"
  | .pages => "LmsSource.PAGES"
  | .quiz => "LmsSource.QUIZ"
  | .rubrics => "LmsSource.RUBRICS"
  | .survey => "LmsSource.SURVEY"

/-- The member with a label. -/
def ofLabel? (s : String) : Option LmsSource := all.find? (·.label == s)

end LmsSource

/-- Sources of attribute conditions. -/
inductive AttributeSource
  | course | section
deriving DecidableEq, Repr

namespace AttributeSource

/-- Every member, in order of declaration. -/
def all : List AttributeSource :=
  [.course, .section]

/-- The name that tasks and answers use. -/
def label : AttributeSource → String
  | .course => "Course"
  | .section => "Section"

/-- The name under which the member is written inside other texts. -/
def constant : AttributeSource → String
  | .course => "AttributeSource.COURSE"
  | .section => "AttributeSource.SECTION"

/-- The member with a label. -/
def ofLabel? (s : String) : Option AttributeSource := all.find? (·.label == s)

end AttributeSource

end CourseAudit
