import CourseAudit.Payload.Form

/-!
The forms of tasks and sections as an editor and a document service send them. Keys of several
words may also be written with low lines.
-/
namespace CourseAudit.Payload

/-- An integer without bounds. -/
def integer : Form := .integer none none

/-- A filter on items. -/
def subConditionFields : Fields :=
  .cons "id" [] (some .null) (.optional .identifier) <|
  .cons "property" [] (some (.text "")) .text <|
  .cons "operator" [] (some (.text "")) .text <|
  .cons "value" [] (some .null) .anything <|
  .nil

/-- A condition; its sub-conditions may also be null. -/
def conditionFields : Fields :=
  .cons "id" [] (some .null) (.optional .identifier) <|
  .cons "groupType" ["group_type"] (some .null) (.optional .text) <|
  .cons "source" [] (some (.text "")) .text <|
  .cons "property" [] (some (.text "")) .text <|
  .cons "operator" [] (some (.text "")) .text <|
  .cons "value" [] (some .null) .anything <|
  .cons "subConditions" ["sub_conditions"] (some .null)
    (.optional (.list (.record subConditionFields))) <|
  .nil

/-- A group of conditions. -/
def groupFields : Fields :=
  .cons "id" [] (some .null) (.optional .identifier) <|
  .cons "conditions" [] (some (.list [])) (.list (.record conditionFields)) <|
  .nil

/-- The kinds of results. -/
def resultTypes : Form := .member (ResultType.all.map .result)

/-- The presentation of a kind of result without further words. -/
def plainPresentation (type : ResultType) : Value :=
  .dict [("type", .choice (.result type)), ("customName", .null), ("icon", .null)]

/-- How an outcome is presented. -/
def presentationFields : Fields :=
  .cons "type" [] (some (.choice (.result .pass))) resultTypes <|
  .cons "customName" ["custom_name"] (some .null) (.optional .text) <|
  .cons "icon" [] (some .null) (.optional .text) <|
  .nil

/-- A task of a plan. -/
def taskFields : Fields :=
  .cons "id" [] (some .null) (.optional .identifier) <|
  .cons "term" [] (some (.text "")) .text <|
  .cons "name" [] (some (.text "")) .text <|
  .cons "description" [] (some (.text "")) .text <|
  .cons "conditionGroups" ["condition_groups"] (some (.list [])) (.list (.record groupFields)) <|
  .cons "displayType" ["display_type"] (some (.choice (.display .yesNo)))
    (.member (DisplayType.all.map .display)) <|
  .cons "conditionResult" ["condition_result"] (some (plainPresentation .pass))
    (.record presentationFields) <|
  .cons "conditionFailure" ["condition_failure"] (some (plainPresentation .fail))
    (.record presentationFields) <|
  .cons "allowView" ["allow_view"] (some (.bool true)) .flag <|
  .cons "allowEdit" ["allow_edit"] (some (.bool false)) .flag <|
  .cons "active" [] (some (.bool true)) .flag <|
  .nil

/-- A part of a syllabus, which has to have a name. -/
def componentFields : Fields :=
  .cons "name" [] none .text <|
  .cons "type" [] (some .null) (.optional .text) <|
  .cons "visible" [] (some (.bool true)) .flag <|
  .cons "required" [] (some (.bool false)) .flag <|
  .cons "public" [] (some (.bool true)) .flag <|
  .cons "sectionEditing" ["section_editing"] (some (.bool false)) .flag <|
  .cons "courseEditing" ["course_editing"] (some (.bool false)) .flag <|
  .cons "helpText" ["help_text"] (some .null) (.optional .text) <|
  .cons "fields" [] (some (.dict [])) .table <|
  .nil

/-- An item of a course shell. -/
def itemFields : Fields :=
  .cons "name" [] (some (.text "")) .text <|
  .cons "publishState" ["publish_state"] (some .null) (.optional .text) <|
  .cons "lastUpdated" ["last_updated"] (some .null) .anything <|
  .cons "graded" [] (some (.bool false)) .flag <|
  .cons "dueDate" ["due_date"] (some .null) .anything <|
  .cons "dueOutsideTerm" ["due_outside_term"] (some (.bool false)) .flag <|
  .cons "rubricUsed" ["rubric_used"] (some (.bool false)) .flag <|
  .cons "anonymousGrading" ["anonymous_grading"] (some (.bool false)) .flag <|
  .cons "instructorPost" ["instructor_post"] (some (.bool false)) .flag <|
  .cons "points" [] (some .null) (.optional .number) <|
  .cons "averageScore" ["average_score"] (some .null) (.optional .number) <|
  .cons "completionRate" ["completion_rate"] (some .null) (.optional .number) <|
  .cons "inUse" ["in_use"] (some (.bool false)) .flag <|
  .nil

/-- A course shell. -/
def lmsCourseFields : Fields :=
  .cons "publishState" ["publish_state"] (some .null) (.optional .text) <|
  .cons "name" [] (some .null) (.optional .text) <|
  .cons "lastUpdated" ["last_updated"] (some .null) .anything <|
  .cons "crossListed" ["cross_listed"] (some .null) (.optional .flag) <|
  .cons "startDate" ["start_date"] (some .null) .anything <|
  .cons "endDate" ["end_date"] (some .null) .anything <|
  .cons "studentCount" ["student_count"] (some .null) (.optional integer) <|
  .cons "mostRecentEnrollment" ["most_recent_enrollment"] (some .null) .anything <|
  .cons "instructorAssigned" ["instructor_assigned"] (some .null) (.optional .flag) <|
  .cons "createdDate" ["created_date"] (some .null) .anything <|
  .nil

/-- Entries of the course catalog. -/
def courseFields : Fields :=
  .cons "subject" [] (some .null) (.optional .text) <|
  .cons "courseNumber" ["course_number"] (some .null) (.optional .text) <|
  .cons "title" [] (some .null) (.optional .text) <|
  .cons "parentOrganization" ["parent_organization"] (some .null) (.optional .text) <|
  .cons "term" [] (some .null) (.optional .text) <|
  .cons "catalogDescription" ["catalog_description"] (some .null) (.optional .text) <|
  .cons "prerequisite" [] (some .null) (.optional .text) <|
  .cons "creditHours" ["credit_hours"] (some .null) (.optional .number) <|
  .nil

/-- A list of items. -/
def items : Form := .list (.record itemFields)

/-- A section. Assignments go by three keys, and the number of a section by two. -/
def sectionFields : Fields :=
  .cons "id" [] (some .null) (.optional .identifier) <|
  .cons "name" [] (some (.text "")) .text <|
  .cons "term" [] (some (.text "")) .text <|
  .cons "publishState" ["publish_state"] (some .null) (.optional .text) <|
  .cons "status" [] (some .null) (.optional .text) <|
  .cons "materialCount" ["material_count"] (some .null) (.optional integer) <|
  .cons "objectiveCount" ["objective_count"] (some .null) (.optional integer) <|
  .cons "instructorCount" ["instructor_count"] (some .null) (.optional integer) <|
  .cons "completedDate" ["completed_date"] (some .null) .anything <|
  .cons "syllabusAccess" ["syllabus_access"] (some .null) (.optional .text) <|
  .cons "studentEngagement" ["student_engagement"] (some .null) (.optional .number) <|
  .cons "components" [] (some (.list [])) (.list (.record componentFields)) <|
  .cons "assignments" ["lmsAssignments", "lms_assignments"] (some (.list [])) items <|
  .cons "discussions" [] (some (.list [])) items <|
  .cons "documents" [] (some (.list [])) items <|
  .cons "modules" [] (some (.list [])) items <|
  .cons "pages" [] (some (.list [])) items <|
  .cons "quizzes" [] (some (.list [])) items <|
  .cons "rubrics" [] (some (.list [])) items <|
  .cons "surveys" [] (some (.list [])) items <|
  .cons "lmsCourse" ["lms_course"] (some .null) (.optional (.record lmsCourseFields)) <|
  .cons "course" [] (some .null) (.optional (.record courseFields)) <|
  .cons "attributeCreditHours" ["attribute_credit_hours"] (some .null) (.optional .number) <|
  .cons "crn" ["CRN"] (some .null) (.optional .text) <|
  .cons "deliveryMethod" ["delivery_method"] (some .null) (.optional .text) <|
  .cons "timezone" [] (some .null) (.optional .text) <|
  .cons "syllabusDueDate" ["syllabus_due_date"] (some .null) .anything <|
  .cons "subject" [] (some .null) (.optional .text) <|
  .cons "courseNumber" ["course_number"] (some .null) (.optional .text) <|
  .cons "title" [] (some .null) (.optional .text) <|
  .nil

/-- A task of a plan. -/
def task : Form := .record taskFields

/-- A section. -/
def sectionRecord : Form := .record sectionFields

/-- A condition on its own. -/
def condition : Form := .record conditionFields

end CourseAudit.Payload
