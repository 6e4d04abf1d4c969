import CourseAudit.Value.Equality
import CourseAudit.Value.Vocabulary

/-!
Records by the names of their parts, and edits of single parts. An edit may put any value anywhere,
so where a record or a list of records belongs there is a slot for it, which holds either that or
whatever has been put in its place.
-/
namespace CourseAudit

/-- A place for a record. What is put under other names than those of its parts is noted with it. -/
inductive Slot (R : Type)
  | own (record : R) (notes : List (String × Value))
  | other (v : Value)
deriving Repr

instance {R : Type} : Inhabited (Slot R) := ⟨.other .null⟩

instance {R : Type} : Coe R (Slot R) := ⟨fun record => .own record []⟩

/-- A place for a list of records. -/
inductive Slots (R : Type)
  | own (members : List (Slot R))
  | other (v : Value)
deriving Repr

instance {R : Type} : Inhabited (Slots R) := ⟨.own []⟩

namespace Slot

variable {R : Type}

/-- The record of a slot; another value has none of its parts. -/
def get : Slot R → Except Fault R
  | .own record _ => .ok record
  | .other _ => .error .absent

/-- Asks a question of the record of a slot. -/
def test (p : R → Test) (slot : Slot R) : Test := slot.get >>= p

def isNull : Slot R → Bool
  | .own .. => false
  | .other v => v.isNull

/-- Whether two slots hold the same record or the same value. -/
def same (sameRecord : R → R → Bool) : Slot R → Slot R → Bool
  | .own r _, .own s _ => sameRecord r s
  | .other v, .other w => v.same w
  | _, _ => false

end Slot

/-- Whether two lists agree member by member. -/
def sameAll {α : Type} (same : α → α → Bool) : List α → List α → Bool
  | [], [] => true
  | a :: as, b :: bs => same a b && sameAll same as bs
  | _, _ => false

namespace Slots

variable {R : Type}

/-- A list that holds records only. -/
def ofList (records : List R) : Slots R := .own (records.map fun record => .own record [])

/-- What a list is gone through by. -/
def members : Slots R → Except Fault (List (Slot R))
  | .own members => .ok members
  | .other v => v.members.map fun vs => vs.map .other

/-- How many members there are. -/
def size (slots : Slots R) : Except Fault Nat := slots.members.map List.length

/-- Whether there is anything. -/
def isSet : Slots R → Bool
  | .own members => !members.isEmpty
  | .other v => v.isSet

/-- The records among the members, in order. -/
def records : Slots R → List R
  | .own members => members.filterMap fun slot => slot.get.toOption
  | .other _ => []

def same (sameRecord : R → R → Bool) : Slots R → Slots R → Bool
  | .own slots, .own others => sameAll (Slot.same sameRecord) slots others
  | .other v, .other w => v.same w
  | .own slots, .other (.list vs) => slots.isEmpty && vs.isEmpty
  | .other (.list vs), .own slots => slots.isEmpty && vs.isEmpty
  | _, _ => false

end Slots

/-- One step of a path into a record. -/
inductive Step
  | name (s : String)
  | index (i : Int)
deriving DecidableEq, Repr

/-- The name that a step stands for among the entries of a dict. -/
def Step.key : Step → String
  | .name s => s
  | .index i => toString i

/-- Why a part cannot be reached or written. -/
inductive EditFault
  /-- There is no part of the name. -/
  | noField
  /-- There is no entry of the name. -/
  | noEntry
  /-- There is no item at the index. -/
  | noItem
  /-- The part does not let its insides be written. -/
  | fixed
deriving DecidableEq, Repr

/-- The place that an index means in a list of a length; negative indexes count from the end. -/
def placeOf (length : Nat) (i : Int) : Option Nat :=
  let place := if i < 0 then i + length else i
  if 0 ≤ place ∧ place < length then some place.toNat else none

/-- Replaces the item at an index by its edited form. -/
def editItem {R : Type} (i : Int) (edit : R → Except EditFault R) (items : List R) :
    Except EditFault (List R) :=
  match placeOf items.length i with
  | none => .error .noItem
  | some place =>
    match items[place]? with
    | none => .error .noItem
    | some item => (edit item).map (items.set place ·)

/-- Writes a value at a path inside another value. -/
def Value.edit (new : Value) : List Step → Value → Except EditFault Value
  | [], _ => .ok new
  | .index i :: rest, .list items => (editItem i (Value.edit new rest) items).map .list
  | step :: rest, .dict entries =>
    match rest, Value.get? entries step.key with
    | [], _ => .ok (.dict (Value.put step.key new entries))
    | _, none => .error .noEntry
    | _, some inner =>
      (Value.edit new rest inner).map fun v => .dict (Value.put step.key v entries)
  | .name _ :: _, .list _ => .error .fixed
  | .name _ :: _, _ => .error .noField
  | .index _ :: _, _ => .error .fixed

/-- A part of a record by its name: how it is seen, and how a value is written at a path inside of
it. -/
structure Part (R : Type) where
  name : String
  view : R → Value
  edit : Value → List Step → R → Except EditFault R

/-- Every part of a record with its name. -/
def viewParts {R : Type} (parts : List (Part R)) (r : R) : Value :=
  .dict (parts.map fun part => (part.name, part.view r))

def Slot.view {R : Type} (parts : List (Part R)) : Slot R → Value
  | .own record _ => viewParts parts record
  | .other v => v

def Slots.view {R : Type} (parts : List (Part R)) : Slots R → Value
  | .own members => .list (members.map (Slot.view parts))
  | .other v => v

/-- Writes a value at a path inside a slot. An unknown name at the end of a path is noted, and what
has been noted can be written into. -/
def Slot.edit {R : Type} (parts : List (Part R)) (new : Value) (path : List Step) :
    Slot R → Except EditFault (Slot R)
  | .other v => (Value.edit new path v).map .other
  | .own record notes =>
    match path with
    | [] => .ok (.other new)
    | .index _ :: _ => .error .fixed
    | .name s :: rest =>
      match parts.find? (·.name == s), Value.get? notes s with
      | some part, _ => (part.edit new rest record).map (.own · notes)
      | none, some noted =>
        (Value.edit new rest noted).map fun v => .own record (Value.put s v notes)
      | none, none =>
        if rest.isEmpty then .ok (.own record (Value.put s new notes)) else .error .noField

/-- Writes a value at a path inside a list of slots. -/
def Slots.edit {R : Type} (parts : List (Part R)) (new : Value) (path : List Step) :
    Slots R → Except EditFault (Slots R)
  | .other v => (Value.edit new path v).map .other
  | .own members =>
    match path with
    | [] => .ok (.other new)
    | .index i :: rest => (editItem i (Slot.edit parts new rest) members).map .own
    | .name _ :: _ => .error .fixed

namespace Part

variable {R S : Type}

/-- A part that may hold any value. -/
def value (name : String) (get : R → Value) (set : Value → R → R) : Part R :=
  ⟨name, get, fun new path r => (Value.edit new path (get r)).map (set · r)⟩

/-- A part that is a record of its own. -/
def record (name : String) (inner : List (Part S)) (get : R → Slot S) (set : Slot S → R → R) :
    Part R :=
  ⟨name, fun r => (get r).view inner,
    fun new path r => ((get r).edit inner new path).map (set · r)⟩

/-- A part that is a list of records. -/
def list (name : String) (inner : List (Part S)) (get : R → Slots S) (set : Slots S → R → R) :
    Part R :=
  ⟨name, fun r => (get r).view inner,
    fun new path r => ((get r).edit inner new path).map (set · r)⟩

end Part
end CourseAudit
