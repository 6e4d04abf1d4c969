import CourseAudit.Fault
import CourseAudit.Value.Written

/-!
What ties the lines of a log together: the request, the plan and the task that they belong to.
-/
namespace CourseAudit

/-- The ids in force; what is null has not been set. -/
structure Correlation where
  requestId : Value := .null
  planId : Value := .null
  taskId : Value := .null
deriving Repr

namespace Correlation

/-- The request that lines belong to from now on. A request without an id is given a fresh one. -/
def ofRequest (c : Correlation) (id fresh : Value) : Correlation :=
  { c with requestId := if id.isNull then fresh else id }

/-- The text of an id that is given, or the one before it. -/
def textOr (given before : Value) : Except Fault Value :=
  if given.isNull then .ok before else given.write.map .text

/-- The texts of the ids that are given; the others stay, and so does the second when the first
cannot be written. -/
def ofTask (c : Correlation) (taskId planId : Value) : Except Fault Unit × Correlation :=
  match textOr taskId c.taskId with
  | .error fault => (.error fault, c)
  | .ok taskId =>
    match textOr planId c.planId with
    | .error fault => (.error fault, { c with taskId })
    | .ok planId => (.ok (), { c with taskId, planId })

/-- The ids that are set, added to an event. -/
def addTo (c : Correlation) (event : List (String × Value)) : List (String × Value) :=
  let add (name : String) (id : Value) (event : List (String × Value)) :=
    if id.isSet then Value.put name id event else event
  add "task_id" c.taskId (add "plan_id" c.planId (add "request_id" c.requestId event))

end Correlation

/-- Adds the service to an event: what stands before the first point of the name of its logger.
A name that is no text is a fault. -/
def addService (event : List (String × Value)) : Except Fault (List (String × Value)) :=
  match (Value.get? event "logger").getD (.text "") with
  | .text s =>
    if s.toList.contains '.' then
      .ok (Value.put "service" (.text (String.ofList (s.toList.takeWhile (· ≠ '.')))) event)
    else .ok event
  | .choice _ => .ok event
  | .list items | .tuple items =>
    if items.any fun v => v.asText? == some "." then .error .absent else .ok event
  | .dict entries => if (Value.get? entries ".").isSome then .error .absent else .ok event
  | _ => .error .mismatch

end CourseAudit
