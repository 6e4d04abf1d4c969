import CourseAudit.Record

/-!
Course sections: what is known of the syllabus of a section, of its shell in the learning
management system and of its course. Any part may hold any value.
-/
namespace CourseAudit

/-- A named part of a syllabus, with fields of its own. -/
structure Component where
  name : Value := .text ""
  type : Value := .null
  visible : Value := .bool true
  required : Value := .bool false
  isPublic : Value := .bool true
  sectionEditing : Value := .bool false
  courseEditing : Value := .bool false
  helpText : Value := .null
  ownFields : Value := .dict []
deriving Repr, Inhabited

namespace Component

def parts : List (Part Component) :=
  [.value "name" (·.name) fun v c => { c with name := v },
    .value "type" (·.type) fun v c => { c with type := v },
    .value "visible" (·.visible) fun v c => { c with visible := v },
    .value "required" (·.required) fun v c => { c with required := v },
    .value "public" (·.isPublic) fun v c => { c with isPublic := v },
    .value "section_editing" (·.sectionEditing) fun v c => { c with sectionEditing := v },
    .value "course_editing" (·.courseEditing) fun v c => { c with courseEditing := v },
    .value "help_text" (·.helpText) fun v c => { c with helpText := v },
    .value "fields" (·.ownFields) fun v c => { c with ownFields := v }]

end Component

/-- An item of a course shell: an assignment, a page, a quiz and the like. -/
structure LmsItem where
  name : Value := .text ""
  publishState : Value := .null
  lastUpdated : Value := .null
  graded : Value := .bool false
  dueDate : Value := .null
  dueOutsideTerm : Value := .bool false
  rubricUsed : Value := .bool false
  anonymousGrading : Value := .bool false
  instructorPost : Value := .bool false
  points : Value := .null
  averageScore : Value := .null
  completionRate : Value := .null
  inUse : Value := .bool false
deriving Repr, Inhabited

namespace LmsItem

def parts : List (Part LmsItem) :=
  [.value "name" (·.name) fun v i => { i with name := v },
    .value "publish_state" (·.publishState) fun v i => { i with publishState := v },
    .value "last_updated" (·.lastUpdated) fun v i => { i with lastUpdated := v },
    .value "graded" (·.graded) fun v i => { i with graded := v },
    .value "due_date" (·.dueDate) fun v i => { i with dueDate := v },
    .value "due_outside_term" (·.dueOutsideTerm) fun v i => { i with dueOutsideTerm := v },
    .value "rubric_used" (·.rubricUsed) fun v i => { i with rubricUsed := v },
    .value "anonymous_grading" (·.anonymousGrading) fun v i => { i with anonymousGrading := v },
    .value "instructor_post" (·.instructorPost) fun v i => { i with instructorPost := v },
    .value "points" (·.points) fun v i => { i with points := v },
    .value "average_score" (·.averageScore) fun v i => { i with averageScore := v },
    .value "completion_rate" (·.completionRate) fun v i => { i with completionRate := v },
    .value "in_use" (·.inUse) fun v i => { i with inUse := v }]

end LmsItem

/-- What the learning management system says about the course shell itself. -/
structure LmsCourse where
  publishState : Value := .null
  name : Value := .null
  lastUpdated : Value := .null
  crossListed : Value := .null
  startDate : Value := .null
  endDate : Value := .null
  studentCount : Value := .null
  mostRecentEnrollment : Value := .null
  instructorAssigned : Value := .null
  createdDate : Value := .null
deriving Repr, Inhabited

namespace LmsCourse

def parts : List (Part LmsCourse) :=
  [.value "publish_state" (·.publishState) fun v c => { c with publishState := v },
    .value "name" (·.name) fun v c => { c with name := v },
    .value "last_updated" (·.lastUpdated) fun v c => { c with lastUpdated := v },
    .value "cross_listed" (·.crossListed) fun v c => { c with crossListed := v },
    .value "start_date" (·.startDate) fun v c => { c with startDate := v },
    .value "end_date" (·.endDate) fun v c => { c with endDate := v },
    .value "student_count" (·.studentCount) fun v c => { c with studentCount := v },
    .value "most_recent_enrollment" (·.mostRecentEnrollment)
      fun v c => { c with mostRecentEnrollment := v },
    .value "instructor_assigned" (·.instructorAssigned)
      fun v c => { c with instructorAssigned := v },
    .value "created_date" (·.createdDate) fun v c => { c with createdDate := v }]

end LmsCourse

/-- Entries of the course catalog. -/
structure CourseAttributes where
  subject : Value := .null
  courseNumber : Value := .null
  title : Value := .null
  parentOrganization : Value := .null
  term : Value := .null
  catalogDescription : Value := .null
  prerequisite : Value := .null
  creditHours : Value := .null
deriving Repr, Inhabited

namespace CourseAttributes

def parts : List (Part CourseAttributes) :=
  [.value "subject" (·.subject) fun v c => { c with subject := v },
    .value "course_number" (·.courseNumber) fun v c => { c with courseNumber := v },
    .value "title" (·.title) fun v c => { c with title := v },
    .value "parent_organization" (·.parentOrganization)
      fun v c => { c with parentOrganization := v },
    .value "term" (·.term) fun v c => { c with term := v },
    .value "catalog_description" (·.catalogDescription)
      fun v c => { c with catalogDescription := v },
    .value "prerequisite" (·.prerequisite) fun v c => { c with prerequisite := v },
    .value "credit_hours" (·.creditHours) fun v c => { c with creditHours := v }]

end CourseAttributes

/-- The record under test. The course shell may be null. -/
structure Section where
  id : Value := .null
  name : Value := .text ""
  term : Value := .text ""
  publishState : Value := .null
  status : Value := .null
  materialCount : Value := .null
  objectiveCount : Value := .null
  instructorCount : Value := .null
  completedDate : Value := .null
  syllabusAccess : Value := .null
  studentEngagement : Value := .null
  components : Slots Component := .own []
  assignments : Slots LmsItem := .own []
  discussions : Slots LmsItem := .own []
  documents : Slots LmsItem := .own []
  modules : Slots LmsItem := .own []
  pages : Slots LmsItem := .own []
  quizzes : Slots LmsItem := .own []
  rubrics : Slots LmsItem := .own []
  surveys : Slots LmsItem := .own []
  lmsCourse : Slot LmsCourse := .other .null
  course : Slot CourseAttributes := ({} : CourseAttributes)
  crn : Value := .null
  deliveryMethod : Value := .null
  timezone : Value := .null
  syllabusDueDate : Value := .null
  subject : Value := .null
  courseNumber : Value := .null
  title : Value := .null
deriving Repr, Inhabited

namespace Section

/-- A list of items of the course shell. -/
def items (name : String) (get : Section → Slots LmsItem)
    (set : Slots LmsItem → Section → Section) : Part Section :=
  .list name LmsItem.parts get set

def parts : List (Part Section) :=
  [.value "id" (·.id) fun v s => { s with id := v },
    .value "name" (·.name) fun v s => { s with name := v },
    .value "term" (·.term) fun v s => { s with term := v },
    .value "publish_state" (·.publishState) fun v s => { s with publishState := v },
    .value "status" (·.status) fun v s => { s with status := v },
    .value "material_count" (·.materialCount) fun v s => { s with materialCount := v },
    .value "objective_count" (·.objectiveCount) fun v s => { s with objectiveCount := v },
    .value "instructor_count" (·.instructorCount) fun v s => { s with instructorCount := v },
    .value "completed_date" (·.completedDate) fun v s => { s with completedDate := v },
    .value "syllabus_access" (·.syllabusAccess) fun v s => { s with syllabusAccess := v },
    .value "student_engagement" (·.studentEngagement) fun v s => { s with studentEngagement := v },
    .value "crn" (·.crn) fun v s => { s with crn := v },
    .value "delivery_method" (·.deliveryMethod) fun v s => { s with deliveryMethod := v },
    .value "timezone" (·.timezone) fun v s => { s with timezone := v },
    .value "syllabus_due_date" (·.syllabusDueDate) fun v s => { s with syllabusDueDate := v },
    .value "subject" (·.subject) fun v s => { s with subject := v },
    .value "course_number" (·.courseNumber) fun v s => { s with courseNumber := v },
    .value "title" (·.title) fun v s => { s with title := v },
    .list "components" Component.parts (·.components)
      fun components s => { s with components := components },
    items "assignments" (·.assignments) fun items s => { s with assignments := items },
    items "discussions" (·.discussions) fun items s => { s with discussions := items },
    items "documents" (·.documents) fun items s => { s with documents := items },
    items "modules" (·.modules) fun items s => { s with modules := items },
    items "pages" (·.pages) fun items s => { s with pages := items },
    items "quizzes" (·.quizzes) fun items s => { s with quizzes := items },
    items "rubrics" (·.rubrics) fun items s => { s with rubrics := items },
    items "surveys" (·.surveys) fun items s => { s with surveys := items },
    .record "lms_course" LmsCourse.parts (·.lmsCourse) fun shell s => { s with lmsCourse := shell },
    .record "course" CourseAttributes.parts (·.course) fun course s => { s with course := course }]

def view (s : Section) : Value := viewParts parts s

end Section
end CourseAudit
