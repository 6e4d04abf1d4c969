import CourseAudit.Value.Vocabulary

/-!
Dynamic values: tokens in braces that conditions may hold in place of a value, and the context in
which they are replaced. Whatever a table says, the token of today means the date of the context.
-/
namespace CourseAudit

/-- A named token and what it stands for. -/
structure DynamicValue where
  label : String
  token : String
  valueType : ValueType
  value : Value
deriving Repr

/-- A name in braces. -/
def braced (name : String) : String := "\x7b" ++ name ++ "\x7d"

def todayToken : String := braced "today"

namespace DynamicValue

/-- The literals that settings may replace: name of the setting, label, token, type and default. -/
def literals : List (String × String × String × ValueType × String) :=
  [("institution_name", "Institution Name", "institution_name", .text, "Simple State University"),
    ("term_name", "Term Name", "term_name", .text, "Fall 2025"),
    ("total_students_lms", "Total Students (LMS)", "total_student (LMS)", .numeric, "12,345"),
    ("total_students_she", "Total Students (SHE)", "total_student (SHE)", .numeric, "12,500"),
    ("total_published_syllabi", "Total Published Syllabi", "total_published_syllabi", .numeric,
      "350"),
    ("total_syllabi", "Total Syllabi", "total_syllabi", .numeric, "410"),
    ("total_sections", "Total Sections", "total_sections", .numeric, "450")]

/-- The literals that are dates; they stand after today's date. -/
def dateLiterals : List (String × String × String × ValueType × String) :=
  [("term_start", "Term Start Date", "term_start", .date, "08/26/2024"),
    ("term_end", "Term End Date", "term_end", .date, "12/13/2024"),
    ("syllabus_due_date", "Syllabus Due Date", "syllabus_due_date", .date, "08/19/2024"),
    ("plan_due_date", "Plan Due Date", "plan_due_date", .date, "07/15/2024")]

/-- The texts of the settings that replace literals, apart from those that are null. -/
def settingTexts (settings : List (String × Value)) : Except Fault (List (String × String)) := do
  let found ← (literals ++ dateLiterals).mapM fun (setting, _) =>
    match Value.get? settings setting with
    | none | some .null => .ok none
    | some v => v.write.map fun text => some (setting, text)
  return found.filterMap id

/-- A literal with the text of its setting, when there is one. -/
def ofLiteral (settings : List (String × String)) :
    String × String × String × ValueType × String → DynamicValue
  | (setting, label, name, valueType, fallback) =>
    ⟨label, braced name, valueType, .text ((settings.lookup setting).getD fallback)⟩

/-- A dynamic value as it is answered. -/
def toValue (d : DynamicValue) : Value :=
  .dict [("label", .text d.label), ("value", .text d.token), ("type", .text d.valueType.label),
    ("calculatedValue", d.value)]

/-- The table of all dynamic values on a day, by the texts of settings. -/
def table (settings : List (String × String)) (today : CivilDate) : List DynamicValue :=
  literals.map (ofLiteral settings) ++
    [⟨"Today's Date", todayToken, .date, .text today.iso⟩] ++
    dateLiterals.map (ofLiteral settings)

end DynamicValue

/-- What an evaluation is given once: the date and what each token stands for. -/
structure EvaluationContext where
  today : CivilDate
  tokens : List (String × Value)
deriving Repr

namespace EvaluationContext

/-- Of repeated tokens the last definition counts; today's date counts over all. -/
def create (today : CivilDate) (values : List DynamicValue) : EvaluationContext where
  today := today
  tokens := Value.put todayToken (.text today.iso)
    (values.foldl (fun tokens v => Value.put v.token v.value tokens) [])

/-- The context of a day without other settings. -/
def ofDay (today : CivilDate) : EvaluationContext := create today (DynamicValue.table [] today)

/-- Replaces a text that is a token, apart from outer blanks; other values stay. -/
def resolve (context : EvaluationContext) (v : Value) : Value :=
  match v.asText? with
  | some s => (Value.get? context.tokens (Text.trim s)).getD v
  | none => v

end EvaluationContext
end CourseAudit
