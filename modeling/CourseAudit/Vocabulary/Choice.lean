import CourseAudit.Vocabulary.Display
import CourseAudit.Vocabulary.Operator
import CourseAudit.Vocabulary.Source

/-!
Members of the fixed vocabularies, as values of tasks and sections may hold them. A choice reads
like the text of its label wherever a text is asked for.
-/
namespace CourseAudit

inductive Choice
  | operator (o : Operator)
  | group (g : GroupType)
  | syllabusSource (s : SyllabusSource)
  | lmsSource (s : LmsSource)
  | attributeSource (s : AttributeSource)
  | display (d : DisplayType)
  | result (r : ResultType)
deriving DecidableEq, Repr

namespace Choice

def label : Choice → String
  | .operator o => o.label
  | .group g => g.label
  | .syllabusSource s => s.label
  | .lmsSource s => s.label
  | .attributeSource s => s.label
  | .display d => d.label
  | .result r => r.label

/-- The vocabulary and the member, as they are written inside other texts. -/
def constant : Choice → String
  | .operator o => o.constant
  | .group g => g.constant
  | .syllabusSource s => s.constant
  | .lmsSource s => s.constant
  | .attributeSource s => s.constant
  | .display d => d.constant
  | .result r => r.constant

end Choice
end CourseAudit
