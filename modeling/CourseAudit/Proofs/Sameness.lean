import CourseAudit.History
import CourseAudit.Value.Vocabulary
import CourseAudit.Proofs.Number

/-!
What keys of a table name. Booleans, integers and binary numbers name the number that they stand
for and choices name their label, so that two keys are the same exactly when they name one thing.
-/
namespace CourseAudit

/-- What a key names. Values that are no key name nothing, as null does. -/
inductive Named
  | nothing
  | number (q : ℚ)
  | infinite (negative : Bool)
  | nan (payload : Nat)
  | text (s : String)
  | date (d : CivilDate)
  | moment (known : Bool) (instant : Int)
  | members (names : List Named)

def Binary64.named : Binary64 → Named
  | .finite s m e => .number (exact s m e)
  | .infinite s => .infinite s
  | .nan payload => .nan payload

namespace Binary64

theorem same_iff {x y : Binary64} : x.same y = true ↔ x.named = y.named := by
  unfold same
  cases x with
  | finite s m e =>
      cases y with
      | finite t n f =>
          rw [Bool.or_eq_true, equal_finite_iff, named, named, Named.number.injEq, beq_iff_eq]
          refine ⟨fun h => h.elim id fun alike => ?_, Or.inl⟩
          cases alike
          rfl
      | infinite t => cases t <;> simp [equal, compare?, named]
      | nan payload => simp [equal, compare?, named]
  | infinite s =>
      cases y with
      | infinite t => cases s <;> cases t <;> simp [equal, compare?, named]
      | finite t n f => cases s <;> simp [equal, compare?, named]
      | nan payload => simp [equal, compare?, named]
  | nan payload => cases y <;> simp [equal, compare?, named]

theorem isInt_iff {x : Binary64} {i : Int} : x.isInt i = true ↔ x.named = .number i := by
  unfold isInt
  rw [beq_iff_eq]
  cases x with
  | finite s m e => rw [toInt?_finite_iff, named, Named.number.injEq]
  | _ => simp [toInt?, isWhole, named]

end Binary64

namespace Value

mutual

/-- What a value names as a key. -/
def named : Value → Named
  | .null => .nothing
  | .bool b => .number b.toInt
  | .int i => .number i
  | .float x => x.named
  | .text s => .text s
  | .tuple items => .members (namedList items)
  | .date d => .date d
  | .moment t => .moment t.offset.isSome t.instant
  | .choice c => .text c.label
  | .list _ | .dict _ => .nothing

def namedList : List Value → List Named
  | [] => []
  | v :: vs => v.named :: namedList vs

end

/-- Only two tuples are compared item by item. -/
theorem same_iff_of_scalar {v w : Value} (hv : v.isKey = true) (hw : w.isKey = true)
    (scalar : ¬ ∃ vs ws, v = .tuple vs ∧ w = .tuple ws) :
    v.same w = true ↔ v.named = w.named := by
  cases v with
  | list vs => cases hv
  | dict es => cases hv
  | float x =>
      cases w with
      | list ws => cases hw
      | dict fs => cases hw
      | float y => exact Binary64.same_iff
      | int i => exact Binary64.isInt_iff
      | bool b => exact Binary64.isInt_iff
      | _ => cases x <;> simp [same, sameScalar, asInt?, named, Binary64.named]
  | int i =>
      cases w with
      | list ws => cases hw
      | dict fs => cases hw
      | float y => exact Binary64.isInt_iff.trans eq_comm
      | _ => simp [same, sameScalar, asInt?, asText?, named]
  | bool b =>
      cases w with
      | list ws => cases hw
      | dict fs => cases hw
      | float y => exact Binary64.isInt_iff.trans eq_comm
      | _ => simp [same, sameScalar, asInt?, asText?, named]
  | tuple vs =>
      cases w with
      | tuple ws => exact absurd ⟨vs, ws, rfl, rfl⟩ scalar
      | float y => cases y <;> simp [same, sameScalar, asInt?, named, Binary64.named]
      | _ => simp_all [same, sameScalar, asInt?, asText?, named, isKey]
  | _ =>
      cases w with
      | list ws => cases hw
      | dict fs => cases hw
      | float y => cases y <;> simp [same, sameScalar, asInt?, named, Binary64.named]
      | _ => simp [same, sameScalar, asInt?, asText?, named, Timestamp.sameMoment]

mutual

/-- Keys are the same when they name the same. -/
theorem same_iff {v w : Value} (hv : v.isKey = true) (hw : w.isKey = true) :
    v.same w = true ↔ v.named = w.named := by
  by_cases tuples : ∃ vs ws, v = .tuple vs ∧ w = .tuple ws
  · obtain ⟨vs, ws, rfl, rfl⟩ := tuples
    rw [same, sameList_iff hv hw, named, named, Named.members.injEq]
  · exact same_iff_of_scalar hv hw tuples
termination_by sizeOf v

theorem sameList_iff {vs ws : List Value} (hv : areKeys vs = true) (hw : areKeys ws = true) :
    sameList vs ws = true ↔ namedList vs = namedList ws := by
  cases vs with
  | nil => cases ws <;> simp [sameList, namedList]
  | cons v vs =>
      cases ws with
      | nil => simp [sameList, namedList]
      | cons w ws =>
          rw [areKeys, Bool.and_eq_true] at hv hw
          rw [sameList, Bool.and_eq_true, same_iff hv.1 hw.1, sameList_iff hv.2 hw.2, namedList,
            namedList, List.cons.injEq]
termination_by sizeOf vs

end

end Value

/-- What keys of groups name: two keys are the same when they name one group. What is no key of a
table names no group. -/
class GroupNames (K : Type) [GroupKey K] where
  Name : Type
  name : K → Name
  IsKey : K → Prop
  same_iff : ∀ {k l}, IsKey k → IsKey l → (GroupKey.same k l = true ↔ name k = name l)

instance : GroupNames Value where
  Name := Named
  name := Value.named
  IsKey v := v.isKey = true
  same_iff := Value.same_iff

instance : GroupNames (String × String) where
  Name := String × String
  name k := k
  IsKey _ := True
  same_iff _ _ := beq_iff_eq

end CourseAudit
