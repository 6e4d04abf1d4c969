import CourseAudit.Dynamic
import CourseAudit.Pattern.Matcher
import CourseAudit.Pattern.Reader
import CourseAudit.Text.Search
import CourseAudit.Value.Coercion

/-!
Comparison of a value with the value of a condition. Every operator is decided by one of a few
judgements on coerced values; what cannot be coerced compares false, and what cannot be written has
no answer where texts are compared. A value that is not there is only ever empty.
-/
namespace CourseAudit

/-- A relation of the texts by which two values are compared; the first is written first. -/
def onTexts (relation : String → String → Bool) (first second : Value) : Except Fault Bool := do
  return relation (← first.comparable) (← second.comparable)

/-- A number equals an expected number; all else is compared as text. -/
def equalTo (actual expected : Value) : Except Fault Bool :=
  let asText := onTexts (· == ·) actual expected
  let asNumber (number : Except Fault Binary64) : Except Fault Bool := do
    match ← expected.toNumber with
    | some y => return (← number).equal y
    | none => asText
  match actual with
  | .int i => asNumber (Binary64.ofInt? i)
  | .float x => asNumber (.ok x)
  | _ => asText

/-- Whether a whole text fits a pattern; nothing when the pattern is none. -/
def Pattern.fits (pattern text : String) : Except Fault (Option Bool) :=
  match Pattern.read pattern with
  | .ok node =>
    match node.matchesAll? text with
    | some fits => .ok (some fits)
    | none => .error .torn
  | .error .malformed => .ok none
  | .error .countOverflow => .error .overflow
  | .error .conflict => .error .meaningless
  | .error .tooDeep => .error .tooDeep
  | .error .tooFar => .error .tooFar

/-- Whether the text of a value fits the pattern that another value writes. -/
def fitsPattern (actual expected : Value) : Except Fault (Option Bool) := do
  let pattern ← expected.write
  Pattern.fits pattern (← actual.write)

/-- A relation of dates, false unless both sides count as dates. -/
def onDates (relation : CivilDate → CivilDate → Bool) (actual expected : Value) : Bool :=
  match actual.toDate, expected.toDate with
  | some d, some e => relation d e
  | _, _ => false

/-- A relation of numbers, false unless both sides count as numbers. -/
def onNumbers (relation : Binary64 → Binary64 → Bool) (actual expected : Value) :
    Except Fault Bool := do
  match ← actual.toNumber, ← expected.toNumber with
  | some x, some y => return relation x y
  | _, _ => return false

/-- A relation of the number of characters of a value's text with an expected number. -/
def onLength (relation : Binary64 → Binary64 → Bool) (actual expected : Value) :
    Except Fault Bool := do
  match ← expected.toNumber with
  | some limit => return relation (Binary64.ofInt (← actual.write).length) limit
  | none => return false

/-- True itself, or one of the texts that name a state. -/
def isState (names : List String) (actual : Value) : Except Fault Bool :=
  actual.comparable.map fun text =>
    names.contains text ||
      match actual with
      | .bool b => b
      | _ => false

/-- The judgement of an operator on a value that is there and a resolved expected value. -/
def Operator.judge (op : Operator) (actual expected : Value) : Except Fault Bool :=
  match op with
  | .isBefore => .ok (onDates CivilDate.before actual expected)
  | .isAfter => .ok (onDates (fun d e => e.before d) actual expected)
  | .isOn => .ok (onDates (· == ·) actual expected)
  | .greaterThan => onNumbers Binary64.gt actual expected
  | .lessThan => onNumbers Binary64.lt actual expected
  | .atLeast => onNumbers Binary64.ge actual expected
  | .atMost => onNumbers Binary64.le actual expected
  | .is | .equals => equalTo actual expected
  | .isNot | .doesNotEqual => (equalTo actual expected).map (!·)
  | .isEmpty => .ok actual.isBlank
  | .isNotEmpty => .ok (!actual.isBlank)
  | .isPresent | .exists | .isTrue => .ok actual.isPresent
  | .isNotPresent | .doesNotExist | .isFalse => .ok (!actual.isPresent)
  | .contains => onTexts (fun part text => Text.contains text part) expected actual
  | .startsWith => onTexts Text.startsWith actual expected
  | .endsWith => onTexts Text.endsWith actual expected
  | .matches => (fitsPattern actual expected).map fun fits => fits == some true
  | .doesNotMatch => (fitsPattern actual expected).map fun fits => fits == some false
  | .lengthEquals => onLength Binary64.equal actual expected
  | .lengthBelow => onLength Binary64.lt actual expected
  | .isPublished => isState ["published"] actual
  | .isNotPublished => (isState ["published"] actual).map (!·)
  | .isComplete => isState ["complete", "completed"] actual
  | .isNotComplete => (isState ["complete", "completed"] actual).map (!·)
  | .isActive => isState ["active"] actual
  | .isInactive => (isState ["active"] actual).map (!·)

/-- Compares a value with an expected one. An operator that is none compares false. -/
def holds (context : EvaluationContext) (actual operator expected : Value) :
    Except Fault Bool :=
  match Operator.ofValue? operator with
  | none => .ok false
  | some op =>
    if actual.isNull then .ok (op == .isEmpty)
    else op.judge actual (context.resolve expected)

end CourseAudit
