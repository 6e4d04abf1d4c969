/-!
Binary floating-point numbers of 64 bits, held as exact sign, significand and exponent. Every
operation computes an exact ratio and rounds it once, to the nearest number and to the even
significand on a tie; `ofRatio` is the only place that rounds.
-/
namespace CourseAudit

/-- A finite number is `± significand * 2 ^ exponent`. The payload tells one not-a-number from
another, as two of them are the same thing only when they share it. -/
inductive Binary64
  | finite (negative : Bool) (significand : Nat) (exponent : Int)
  | infinite (negative : Bool)
  | nan (payload : Nat)
deriving DecidableEq, Repr, Inhabited

namespace Binary64

/-- The exponent of the smallest numbers. -/
def minExponent : Int := -1074

/-- The exponent of the largest numbers. -/
def maxExponent : Int := 971

/-- A quotient rounded to the nearest whole number, and to the even one on a tie. -/
def roundHalfEven (num den : Nat) : Nat :=
  let twice := 2 * (num % den)
  if twice < den then num / den
  else if den < twice then num / den + 1
  else num / den + num / den % 2

/-- The ratio `num / den` divided by `2 ^ e`, as numerator and denominator. -/
def scaleRatio (num den : Nat) (e : Int) : Nat × Nat :=
  if e < 0 then (num * Nat.pow 2 (-e).toNat, den) else (num, den * Nat.pow 2 e.toNat)

/-- The exponent that leaves 53 bits before the point of a positive ratio. -/
def leadingExponent (num den : Nat) : Int :=
  let guess := (num.log2 : Int) - den.log2 - 52
  let scaled := scaleRatio num den guess
  if scaled.2 * Nat.pow 2 52 ≤ scaled.1 then guess else guess - 1

/-- A significand that rounding carried to 54 bits moves one exponent up, and past the last
exponent a number is infinite. -/
def carry (negative : Bool) (significand : Nat) (exponent : Int) : Binary64 :=
  if significand = Nat.pow 2 53 then
    if maxExponent ≤ exponent then .infinite negative
    else .finite negative (Nat.pow 2 52) (exponent + 1)
  else if maxExponent < exponent then .infinite negative
  else .finite negative significand exponent

/-- The number nearest to `num / den`. -/
def ofRatio (negative : Bool) (num den : Nat) : Binary64 :=
  if num = 0 then .finite negative 0 minExponent
  else
    let exponent := max (leadingExponent num den) minExponent
    let scaled := scaleRatio num den exponent
    carry negative (roundHalfEven scaled.1 scaled.2) exponent

def zero : Binary64 := .finite false 0 minExponent

/-- The number nearest to an integer. -/
def ofInt (i : Int) : Binary64 := ofRatio (decide (i < 0)) i.natAbs 1

/-- How many decimal digits a natural number has; zero has none. -/
def digitCount (n : Nat) : Nat := if n = 0 then 0 else (Nat.toDigits 10 n).length

/-- The number nearest to `digits * 10 ^ exponent`. Exponents far outside the range are decided
without the power. -/
def ofDecimal (negative : Bool) (digits : Nat) (exponent : Int) : Binary64 :=
  let place := exponent + digitCount digits
  if digits = 0 ∨ place < -400 then .finite negative 0 minExponent
  else if 400 < place then .infinite negative
  else if exponent < 0 then ofRatio negative digits (Nat.pow 10 (-exponent).toNat)
  else ofRatio negative (digits * Nat.pow 10 exponent.toNat) 1

/-- The magnitude of a finite number as a ratio. -/
def magnitude (significand : Nat) (exponent : Int) : Nat × Nat :=
  if exponent < 0 then (significand, Nat.pow 2 (-exponent).toNat)
  else (significand * Nat.pow 2 exponent.toNat, 1)

/-- A finite number counted in units of `2 ^ base`, for a base not above its exponent. -/
def unitsAt (base : Int) (negative : Bool) (significand : Nat) (exponent : Int) : Int :=
  let units : Int := significand * Nat.pow 2 (exponent - base).toNat
  if negative then -units else units

def isNan : Binary64 → Bool
  | .nan _ => true
  | _ => false

def isFinite : Binary64 → Bool
  | .finite .. => true
  | _ => false

/-- Both zeros count. -/
def isZero : Binary64 → Bool
  | .finite _ m _ => m == 0
  | _ => false

/-- A finite number without a fractional part. -/
def isWhole : Binary64 → Bool
  | .finite _ m e => decide (0 ≤ e) || m % Nat.pow 2 (-e).toNat == 0
  | _ => false

/-- The whole part, without the sign's fraction; nothing for what is not finite. -/
def truncate? : Binary64 → Option Int
  | .finite negative m e =>
    let ratio := magnitude m e
    let whole : Int := ratio.1 / ratio.2
    some (if negative then -whole else whole)
  | _ => none

/-- The greatest integer not above the number; nothing for what is not finite. -/
def floor? : Binary64 → Option Int
  | .finite negative m e =>
    let ratio := magnitude m e
    some (Int.fdiv (if negative then -(ratio.1 : Int) else ratio.1) ratio.2)
  | _ => none

def neg : Binary64 → Binary64
  | .finite s m e => .finite (!s) m e
  | .infinite s => .infinite (!s)
  | .nan p => .nan p

/-- The least integer not below the number; nothing for what is not finite. -/
def ceil? (x : Binary64) : Option Int := x.neg.floor?.map fun i => -i

/-- The order of numbers; a not-a-number has no place in it, and both zeros share one. -/
def compare? : Binary64 → Binary64 → Option Ordering
  | .nan _, _ | _, .nan _ => none
  | .infinite s, .infinite t => some (compare t.toNat s.toNat)
  | .infinite s, .finite .. => some (if s then .lt else .gt)
  | .finite .., .infinite t => some (if t then .gt else .lt)
  | .finite s m e, .finite t n f =>
    let base := min e f
    some (compare (unitsAt base s m e) (unitsAt base t n f))

def lt (x y : Binary64) : Bool := compare? x y == some .lt

def gt (x y : Binary64) : Bool := compare? x y == some .gt

def equal (x y : Binary64) : Bool := compare? x y == some .eq

def le (x y : Binary64) : Bool := lt x y || equal x y

def ge (x y : Binary64) : Bool := gt x y || equal x y

/-- The exact sum rounded once. A sum of zero is negative only from two negative zeros. -/
def add : Binary64 → Binary64 → Binary64
  | .nan p, _ | _, .nan p => .nan p
  | .infinite s, .infinite t => if s = t then .infinite s else .nan 0
  | .infinite s, .finite .. | .finite .., .infinite s => .infinite s
  | .finite s m e, .finite t n f =>
    let base := min e f
    let sum := unitsAt base s m e + unitsAt base t n f
    if sum = 0 then .finite (s && t) 0 minExponent
    else
      let ratio := magnitude sum.natAbs base
      ofRatio (decide (sum < 0)) ratio.1 ratio.2

/-- The exact product rounded once. -/
def mul : Binary64 → Binary64 → Binary64
  | .nan p, _ | _, .nan p => .nan p
  | .infinite s, .infinite t => .infinite (s != t)
  | .infinite s, .finite t m _ | .finite t m _, .infinite s =>
    if m = 0 then .nan 0 else .infinite (s != t)
  | .finite s m e, .finite t n f =>
    let ratio := magnitude (m * n) (e + f)
    ofRatio (s != t) ratio.1 ratio.2

/-- The exact quotient rounded once. A zero divisor gives an infinity, or no number for `0 / 0`. -/
def div : Binary64 → Binary64 → Binary64
  | .nan p, _ | _, .nan p => .nan p
  | .infinite _, .infinite _ => .nan 0
  | .infinite s, .finite t .. => .infinite (s != t)
  | .finite s .., .infinite t => .finite (s != t) 0 minExponent
  | .finite s m e, .finite t n f =>
    if n = 0 then (if m = 0 then .nan 0 else .infinite (s != t))
    else
      let ratio := magnitude m (e - f)
      ofRatio (s != t) ratio.1 (ratio.2 * n)

/-- The integer of a number that has no fractional part. -/
def toInt? (x : Binary64) : Option Int := if x.isWhole then x.truncate? else none

/-- The mean of the exact value of finite numbers given as units at one base, rounded once. -/
def ofUnits (total : Int) (base : Int) (count : Nat) : Binary64 :=
  let ratio := magnitude total.natAbs base
  ofRatio (decide (total < 0)) ratio.1 (ratio.2 * count)

end Binary64
end CourseAudit
