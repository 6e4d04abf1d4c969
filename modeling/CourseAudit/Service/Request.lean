import CourseAudit.Json.Reader
import CourseAudit.Payload.Domain
import CourseAudit.Service.Metrics
import CourseAudit.Service.Route
import CourseAudit.Text.Bytes
import CourseAudit.Text.Case
import CourseAudit.Text.Encoding

/-!
Requests and responses. The content of a request is read as the standard interchange format, and
by the form that its route asks for; what is wrong with it is answered by its issues.
-/
namespace CourseAudit

/-- What a request brings along. -/
inductive Content
  | none
  | value (v : Value)
  | text (s : String)

structure Request where
  method : String
  path : String
  query : List (String × String)
  headers : List (String × String)
  content : Content

/-- What a response brings back. A page of the manual is made by what routes requests, out of the
routes; it is told by its name. -/
inductive Body
  | json (v : Value)
  | text (s : String)
  | metrics (m : Metrics)
  | manual (page : ManualPage)

mutual

/-- A value as it is answered: numbers that are not finite become null. -/
def Value.finite : Value → Value
  | .float x => if x.isFinite then .float x else .null
  | .list items => .list (finiteItems items)
  | .tuple items => .list (finiteItems items)
  | .dict entries => .dict (finiteEntries entries)
  | v => v

def Value.finiteItems : List Value → List Value
  | [] => []
  | v :: vs => v.finite :: finiteItems vs

def Value.finiteEntries : List (String × Value) → List (String × Value)
  | [] => []
  | (name, v) :: rest => (name, v.finite) :: finiteEntries rest

end

mutual

/-- Whether a value can be written: its numbers are finite, and its texts hold no half. -/
def Value.isWritable : Value → Bool
  | .float x => x.isFinite
  | .text s => !Text.hasHalf s
  | .list items => areWritable items
  | .tuple items => areWritable items
  | .dict entries => entriesWritable entries
  | _ => true

def Value.areWritable : List Value → Bool
  | [] => true
  | v :: rest => v.isWritable && areWritable rest

def Value.entriesWritable : List (String × Value) → Bool
  | [] => true
  | (name, v) :: rest => !Text.hasHalf name && v.isWritable && entriesWritable rest

end

/-- A status with a body. An answer that turns values down also has to write them. -/
structure Reply where
  status : Nat
  body : Body
  refused : List Value := []

/-- Whether an answer can be written. -/
def Reply.isWritable (r : Reply) : Bool :=
  Value.areWritable r.refused &&
    match r.body with
    | .json v => v.isWritable
    | .text _ | .metrics _ | .manual _ => true

structure Response where
  status : Nat
  requestId : Option String
  body : Body

namespace Request

/-- The value of a header, whatever the case of its name. -/
def header? (r : Request) (name : String) : Option String :=
  (r.headers.find? fun entry => entry.1.toLower == name).map (·.2)

/-- The last value of a name in the query. -/
def query? (r : Request) (name : String) : Option String :=
  (r.query.reverse.find? (·.1 == name)).map (·.2)

/-- A character of a path as it is counted. Line breaks and tabs are left out, and the marks of a
query and a fragment stand for themselves. -/
def countedCharacter (c : Char) : List Char :=
  if c = '?' then ['%', '3', 'F']
  else if c = '#' then ['%', '2', '3']
  else if c = '\\' then ['%', '5', 'C']
  else if c = '\t' ∨ c = '\n' ∨ c = '\r' then []
  else [c]

/-- The path under which a request is counted. It begins with a slash unless it is empty. -/
def countedPath (r : Request) : String :=
  let path := match r.path.toList with
    | [] => []
    | '/' :: rest => '/' :: rest
    | path => '/' :: path
  String.ofList (path.flatMap countedCharacter)

/-- Whether a content type is that of the interchange format. -/
def isJsonType (contentType : String) : Bool :=
  let type := Text.lower (Text.trim (String.ofList (contentType.toList.takeWhile (· ≠ ';'))))
  match (type.toList.splitOn '/') with
  | [main, sub] =>
    String.ofList main == "application" &&
      (String.ofList sub == "json" || "+json".toList.isSuffixOf sub)
  | _ => false

/-- Content counts as interchange format when its type says so. -/
def hasJson (r : Request) : Bool := (r.header? "content-type").any isJsonType

end Request

/-- An issue of a request as it is answered. A record may be given in no other way than by its
entries. -/
def Issue.view (i : Issue) : Value :=
  let kind := if i.kind = .notRecord then "model_attributes_type" else i.kind.label
  let place : Place → Value
    | .key name => .text name
    | .item index => .int index
  .dict [("type", .text kind), ("loc", .list (i.path.map place))]

/-- The answer to a request with issues, and with the values that they are about. -/
def issuesReply (views : List Value) (refused : List Value) : Reply :=
  ⟨422, .json (.dict [("detail", .list views)]), refused⟩

/-- The answer of a plain message. -/
def detailReply (status : Nat) (message : String) : Reply :=
  ⟨status, .json (.dict [("detail", .text message)]), []⟩

/-- What a request's content is called in the places of its issues. -/
def contentPlace : String := "body"

/-- The value that an issue is about: what its path leads to, or as far as it leads. -/
def Value.follow (v : Value) : List Place → Value
  | [] => v
  | .key name :: rest =>
    match v with
    | .dict entries =>
      match entries.find? (·.1 == name) with
      | some (_, part) => part.follow rest
      | none => v
    | _ => v
  | .item index :: rest =>
    match v.items[index]? with
    | some part => part.follow rest
    | none => v

/-- Collections of a request that lie deeper within one another are not read, and neither are
integers that are too long to be written. -/
def nestingLimit : Nat := 960

/-- The value of a request's content, or the answer to content that cannot be read. -/
def Request.value (r : Request) : Except Reply Value :=
  let issue (kind : IssueKind) : Reply :=
    issuesReply [({ kind := kind, path := [.key contentPlace] } : Issue).view] []
  let unparsed := detailReply 400 "There was an error parsing the body"
  match r.content with
  | .none => .error (issue .missing)
  | .value v =>
    if !r.hasJson then .error (issue .notRecord)
    else if (v.obstacle? (nestingLimit + 1)).isSome then .error unparsed
    else .ok v
  | .text s =>
    if s.isEmpty then .error (issue .missing)
    else if !r.hasJson then .error (issue .notRecord)
    else
      match (Text.decoded? s).map (Json.read nestingLimit) with
      | some (.ok v) => .ok v
      | some (.error (.broken place)) =>
        .error (issuesReply [.dict [("type", .text "json_invalid"),
          ("loc", .list [.text contentPlace, .int place])]] [])
      | some (.error .tooLarge) | none => .error unparsed

/-- The content of a request by the form of its route. -/
def Request.read (r : Request) (fields : Payload.Fields) : Except Reply Value := do
  let v ← r.value
  match (Payload.Form.record fields).read v with
  | .ok v => return v
  | .error issues =>
    throw (issuesReply (issues.map fun i => (i.under (.key contentPlace)).view)
      (issues.map fun i => v.follow i.path))

end CourseAudit
