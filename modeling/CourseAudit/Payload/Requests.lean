import CourseAudit.Payload.Forms

/-!
The forms of requests: a task with a section, a task with many sections, a task alone, and the
conditions of a group after an edit.
-/
namespace CourseAudit.Payload

/-- A task to decide for one section. -/
def evaluateFields : Fields :=
  .cons "task" [] none task <|
  .cons "section" [] (some .null) (.optional sectionRecord) <|
  .cons "override" [] (some .null) (.optional (.oneOf ["pass", "fail"])) <|
  .cons "today" [] (some .null) (.optional .day) <|
  .nil

/-- A task to check. -/
def validateFields : Fields :=
  .cons "task" [] none task <|
  .nil

/-- A task to decide for many sections, of which one page is answered. -/
def contextFields : Fields :=
  .cons "task" [] none task <|
  .cons "sections" [] (some (.list [])) (.list sectionRecord) <|
  .cons "mode" [] (some (.text "fail")) (.oneOf ["pass", "fail"]) <|
  .cons "page" [] (some (.int 1)) (.integer (some 1) none) <|
  .cons "limit" [] (some .null) (.optional (.integer (some 1) (some 100))) <|
  .cons "today" [] (some .null) (.optional .day) <|
  .nil

/-- The conditions of a group after an edit. -/
def recordFields : Fields :=
  .cons "conditions" [] (some (.list [])) (.list condition) <|
  .nil

end CourseAudit.Payload
