import CourseAudit.Payload.Forms

/-!
Rejections: the ways in which the service turns a request down or fails, with the code, the status
and the words that it does so with.
-/
namespace CourseAudit

/-- The kinds of rejections that have codes of their own. -/
inductive RejectionKind
  | validation | payload | catalog | service
deriving DecidableEq, Repr

namespace RejectionKind

def code : RejectionKind → String
  | .validation => "VALIDATION_ERROR"
  | .payload => "INVALID_PAYLOAD"
  | .catalog => "SCHEMA_DEFINITION_ERROR"
  | .service => "SERVICE_ERROR"

/-- What is said when nothing else is. -/
def message : RejectionKind → String
  | .validation => "Validation failed"
  | .payload => "Invalid payload"
  | .catalog => "Invalid property schema"
  | .service => "Service error"

/-- Requests are at fault for some, the service for others. -/
def status : RejectionKind → Nat
  | .validation | .payload => 400
  | .catalog | .service => 500

end RejectionKind

/-- A rejection with what is known about it. -/
structure Rejection where
  code : Value
  message : Value
  details : Value
  status : Nat
deriving Repr

namespace Rejection

/-- Details that are not set are an empty table. -/
def of (kind : RejectionKind) (message details : Value) : Rejection :=
  ⟨.text kind.code, message, if details.isSet then details else .dict [], kind.status⟩

/-- A rejection of no kind of its own. -/
def plain (code message details : Value) : Rejection :=
  ⟨code, message, if details.isSet then details else .dict [], 400⟩

def responseFields : Payload.Fields :=
  .cons "requestId" ["request_id"] (some .null) (.optional .text) <|
  .cons "code" [] none .text <|
  .cons "message" [] none .text <|
  .cons "details" [] (some (.dict [])) .table <|
  .nil

/-- The answer to the request of an id, unless the parts are not what an answer is made of. -/
def response (r : Rejection) (requestId : Value) : Except (List Issue) Value :=
  (Payload.Form.record responseFields).read (.dict [("requestId", requestId), ("code", r.code),
    ("message", r.message), ("details", r.details)])

end Rejection
end CourseAudit
