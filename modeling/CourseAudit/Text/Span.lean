/-!
Sets of characters given as ascending spans of code points, the form in which the tables of
character properties are kept.
-/
namespace CourseAudit.Text

/-- Whether a code point lies in one of the spans. -/
def inSpans (spans : List (Nat × Nat)) (code : Nat) : Bool :=
  spans.any fun span => span.1 ≤ code && code ≤ span.2

end CourseAudit.Text
