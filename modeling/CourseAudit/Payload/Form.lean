import CourseAudit.Payload.Day
import CourseAudit.Payload.Scalar
import CourseAudit.Text.Half

/-!
Forms describe what a payload has to look like, and reading a payload by its form gives either the
values it stands for or every issue with it, in the order of the form. Records are read key by
key; keys that no field of the form goes by are passed over.
-/
namespace CourseAudit.Payload

mutual

/-- What a value of a payload has to be. -/
inductive Form
  | anything
  | text
  | number
  | flag
  | day
  /-- An integer between bounds, where there are any. -/
  | integer (low high : Option Int)
  /-- An integer or a text. -/
  | identifier
  /-- The label of one of the choices. -/
  | member (choices : List Choice)
  /-- One of the texts. -/
  | oneOf (names : List String)
  | optional (form : Form)
  | list (form : Form)
  /-- Any entries under any names. -/
  | table
  | record (fields : Fields)

/-- The fields of a record in order. Each goes by several keys, of which the first is the one that
answers use; a field without a fallback is required. -/
inductive Fields
  | nil
  | cons (key : String) (otherKeys : List String) (fallback : Option Value) (form : Form)
    (rest : Fields)

end

/-- A read value, or everything that is wrong with it. -/
abbrev Reading := Except (List Issue) Value

/-- The reading of a plain value, whose issue is its own. -/
def plainly {α : Type} (wrap : α → Value) : Except IssueKind α → Reading
  | .ok a => .ok (wrap a)
  | .error kind => .error [⟨kind, []⟩]

/-- The reading of a value that is to stand for more than its text, which it cannot with a half that
stands alone. -/
def whole (v : Value) (reading : Reading) : Reading :=
  if v.asText?.any Text.hasHalf then .error [⟨.brokenText, []⟩] else reading

/-- An integer or a text. What is neither has an issue on either side. -/
def readIdentifier (v : Value) : Reading :=
  match v, v.asText? with
  | .int i, _ => .ok (.int i)
  | _, some s => .ok (.text s)
  | _, none =>
    match readInteger v with
    | .ok i => .ok (.int i)
    | .error kind => .error [⟨kind, [.key "int"]⟩, ⟨.notText, [.key "str"]⟩]

def readBounded (low high : Option Int) (v : Value) : Except IssueKind Int := do
  let i ← readInteger v
  if high.any (· < i) then .error .tooLarge
  else if low.any (i < ·) then .error .tooSmall
  else .ok i

/-- The readings of the items of a list together; their issues are found under their indexes. -/
def collect (start : Nat) : List Reading → Except (List Issue) (List Value)
  | [] => .ok []
  | reading :: rest =>
    match reading, collect (start + 1) rest with
    | .ok v, .ok vs => .ok (v :: vs)
    | .error issues, .ok _ => .error (issues.map (Issue.under (.item start)))
    | .ok _, .error issues => .error issues
    | .error issues, .error others => .error (issues.map (Issue.under (.item start)) ++ others)

/-- The entry that a field goes by: the first of its keys that is there. -/
def entryOf (entries : List (String × Value)) (keys : List String) : Option (String × Value) :=
  keys.findSome? fun key => (Value.get? entries key).map (key, ·)

/-- Adds the reading of a field to those of the fields after it. -/
def joinField (key : String) (reading : Reading)
    (rest : Except (List Issue) (List (String × Value))) :
    Except (List Issue) (List (String × Value)) :=
  match reading, rest with
  | .ok v, .ok entries => .ok ((key, v) :: entries)
  | .error issues, .ok _ => .error issues
  | .ok _, .error issues => .error issues
  | .error issues, .error others => .error (issues ++ others)

mutual

/-- Reads a value by a form. -/
def Form.read : Form → Value → Reading
  | .anything, v => .ok v
  | .text, v => plainly .text (readText v)
  | .number, v => whole v (plainly .float (readNumber v))
  | .flag, v => whole v (plainly .bool (readFlag v))
  | .day, v => whole v (plainly .date (Day.read v))
  | .integer low high, v => whole v (plainly .int (readBounded low high v))
  | .identifier, v => readIdentifier v
  | .member choices, v =>
    whole v <|
      match v.asText?.bind fun s => choices.find? (·.label == s) with
      | some c => .ok (.choice c)
      | none => .error [⟨.notMember, []⟩]
  | .oneOf names, v =>
    whole v <|
      match v.asText? with
      | some s => if names.contains s then .ok (.text s) else .error [⟨.notLiteral, []⟩]
      | none => .error [⟨.notLiteral, []⟩]
  | .optional form, v => if v.isNull then .ok .null else form.read v
  | .list form, v =>
    match v with
    | .list items | .tuple items => (collect 0 (items.map form.read)).map .list
    | _ => .error [⟨.notList, []⟩]
  | .table, v =>
    match v with
    | .dict entries => .ok (.dict entries)
    | _ => .error [⟨.notTable, []⟩]
  | .record fields, v =>
    match v with
    | .dict entries => (fields.read entries).map .dict
    | _ => .error [⟨.notRecord, []⟩]

/-- Reads the entries of a record by its fields. -/
def Fields.read : Fields → List (String × Value) → Except (List Issue) (List (String × Value))
  | .nil, _ => .ok []
  | .cons key otherKeys fallback form rest, entries =>
    let reading : Reading :=
      match entryOf entries (key :: otherKeys), fallback with
      | some (found, v), _ =>
        match form.read v with
        | .ok v => .ok v
        | .error issues => .error (issues.map (Issue.under (.key found)))
      | none, some v => .ok v
      | none, none => .error [⟨.missing, [.key key]⟩]
    joinField key reading (rest.read entries)

end

end CourseAudit.Payload
