import CourseAudit.Value.Written

/-!
Values that were to name a member of a vocabulary and name none.
-/
namespace CourseAudit

/-- The value that was given, and the vocabulary that it was looked up in. -/
structure UnknownMember where
  value : Value
  vocabulary : String
deriving Repr

/-- What is said of a value that is no member, unless it cannot be written. -/
def UnknownMember.message (u : UnknownMember) : Except Fault String :=
  u.value.write.map fun _ => u.value.inner ++ " is not a valid " ++ u.vocabulary

/-- A member that a value names exactly, or the refusal of the value. -/
def memberOf {α : Type} (vocabulary : String) (label : α → String) (members : List α)
    (v : Value) : Except UnknownMember α :=
  match v.asText?.bind fun s => members.find? (label · == s) with
  | some a => .ok a
  | none => .error ⟨v, vocabulary⟩

end CourseAudit
