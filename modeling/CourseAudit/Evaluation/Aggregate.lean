import CourseAudit.Value.Coercion
import CourseAudit.Value.Equality

/-!
Sums and means of values. Sums are taken from left to right and stay whole as long as every part
is; means are taken exactly and rounded once.
-/
namespace CourseAudit

/-- A count with another value. -/
def plus (total v : Value) : Except Fault Value :=
  match total, v with
  | .float x, .float y => .ok (.float (x.add y))
  | .float x, w =>
    match w.asInt? with
    | some i => (Binary64.ofInt? i).map fun y => .float (x.add y)
    | none => .error .mismatch
  | w, .float y =>
    match w.asInt? with
    | some i => (Binary64.ofInt? i).map fun x => .float (x.add y)
    | none => .error .mismatch
  | v, w =>
    match v.asInt?, w.asInt? with
    | some i, some j => .ok (.int (i + j))
    | _, _ => .error .mismatch

/-- The sum of the values that members have, where one that is not set counts as zero. -/
def sumOf {α : Type} (value : α → Except Fault Value) (members : List α) : Except Fault Value :=
  members.foldlM (fun total a => do
    let v ← value a
    plus total (if v.isSet then v else .int 0)) (.int 0)

/-- How many of the smallest numbers make one. -/
def unitsOfOne : Int := Nat.pow 2 (-Binary64.minExponent).toNat

/-- A value as an exact number: units of the smallest number, or none when it is not finite. -/
def exactUnits (v : Value) : Except Fault (Option Int) :=
  match v with
  | .float (.finite s m e) => .ok (some (Binary64.unitsAt Binary64.minExponent s m e))
  | .float _ => .ok none
  | v =>
    match v.asInt? with
    | some i => .ok (some (i * unitsOfOne))
    | none => .error .mismatch

def isFloat : Value → Bool
  | .float _ => true
  | _ => false

/-- The sum of the numbers that are not finite. -/
def addInfinite (total : Binary64) : Value → Binary64
  | .float (.finite ..) => total
  | .float x => total.add x
  | _ => total

/-- The mean of numbers: whole when all of them are and the mean is, not finite when one of them is
not, and else the nearest number to the exact mean. -/
def meanOf (values : List Value) : Except Fault Value := do
  let units ← values.mapM exactUnits
  let count := values.length
  if units.contains none then
    return .float ((values.foldl addInfinite Binary64.zero).div (Binary64.ofInt count))
  let total := (units.filterMap id).foldl (· + ·) 0
  if !values.any isFloat && total % (unitsOfOne * count) == 0 then
    return .int (total / (unitsOfOne * count))
  match Binary64.ofUnits total Binary64.minExponent count with
  | .finite s m e => return .float (.finite s m e)
  | _ => .error .overflow

/-- The mean of those values that are there; null when none is. -/
def meanOfPresent (values : List Value) : Except Fault Value :=
  match values.filter (!·.isNull) with
  | [] => .ok .null
  | present => meanOf present

end CourseAudit
