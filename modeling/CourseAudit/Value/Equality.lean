import CourseAudit.Value.Basic

/-!
When two values are the same record of an edit. Numbers and booleans are compared by what they
count, a choice counts as the text of its label, and a not-a-number is the same only as itself.
-/
namespace CourseAudit

/-- Whether a number is exactly an integer. -/
def Binary64.isInt (x : Binary64) (i : Int) : Bool := x.toInt? == some i

def Binary64.same (x y : Binary64) : Bool := x.equal y || x == y

namespace Value

/-- A count given as an integer or a boolean. -/
def asInt? : Value → Option Int
  | .int i => some i
  | .bool b => some b.toInt
  | _ => none

/-- Sameness of values that hold no others. -/
def sameScalar (v w : Value) : Bool :=
  match v, w with
  | .null, .null => true
  | .float x, .float y => x.same y
  | .date d, .date e => d == e
  | .moment t, .moment u => t.sameMoment u
  | .float x, w => match w.asInt? with
    | some i => x.isInt i
    | none => false
  | v, .float y => match v.asInt? with
    | some i => y.isInt i
    | none => false
  | v, w =>
    match v.asInt?, w.asInt?, v.asText?, w.asText? with
    | some i, some j, _, _ => i == j
    | _, _, some s, some t => s == t
    | _, _, _, _ => false

mutual

def same : Value → Value → Bool
  | .list vs, .list ws => sameList vs ws
  | .tuple vs, .tuple ws => sameList vs ws
  | .dict es, .dict fs => es.length == fs.length && sameEntries es fs
  | v, w => sameScalar v w

def sameList : List Value → List Value → Bool
  | [], [] => true
  | v :: vs, w :: ws => same v w && sameList vs ws
  | _, _ => false

/-- Every entry has its like under the same name, whatever the order. -/
def sameEntries : List (String × Value) → List (String × Value) → Bool
  | [], _ => true
  | (name, v) :: rest, fs =>
    (match get? fs name with
      | some w => same v w
      | none => false) && sameEntries rest fs

end

end Value
end CourseAudit
