/-!
Where a request goes. A path names a place of the service, and the method says what is to be done
there. Beside the places of its own a service has those of its manual, of which some may be hidden.
-/
namespace CourseAudit

/-- The pages on which a service describes itself: its interface, a page to try it out with the one
that signing in comes back to, and a page to read about it. -/
inductive ManualPage
  | interface | trial | signIn | reference
deriving DecidableEq, Repr

/-- What is done with the timeline of a group. -/
inductive HistoryAction
  | current | record | undo | redo | clear
deriving DecidableEq, Repr

/-- What a request asks for. -/
inductive Route
  | root | health | metrics | catalog | dynamicValues | validate | evaluate | context
  | history (action : HistoryAction) (taskId groupId : String)
  | manual (page : ManualPage)
deriving DecidableEq, Repr

/-- A place that paths name. -/
inductive Site
  | root | health | metrics | catalog | dynamicValues | validate | evaluate | context
  | history (taskId groupId : String)
  | undo (taskId groupId : String)
  | redo (taskId groupId : String)
  | manual (page : ManualPage)
deriving DecidableEq, Repr

namespace Site

/-- The place of a path given by what stands between its slashes. Ids are not empty. -/
def ofSegments? : List String → Option Site
  | [""] => some .root
  | ["health"] => some .health
  | ["metrics"] => some .metrics
  | ["openapi.json"] => some (.manual .interface)
  | ["docs"] => some (.manual .trial)
  | ["docs", "oauth2-redirect"] => some (.manual .signIn)
  | ["redoc"] => some (.manual .reference)
  | ["compliance", "schema"] => some .catalog
  | ["compliance", "dynamic-values"] => some .dynamicValues
  | ["compliance", "validate"] => some .validate
  | ["compliance", "evaluate"] => some .evaluate
  | ["compliance", "evaluate", "context"] => some .context
  | "compliance" :: "history" :: taskId :: "groups" :: groupId :: action =>
    if taskId.isEmpty || groupId.isEmpty then none
    else
      match action with
      | [] => some (.history taskId groupId)
      | ["undo"] => some (.undo taskId groupId)
      | ["redo"] => some (.redo taskId groupId)
      | _ => none
  | _ => none

/-- The place of a path as it stands. -/
def ofExactPath? (path : List Char) : Option Site :=
  match path with
  | '/' :: rest => ofSegments? ((rest.splitOn '/').map String.ofList)
  | _ => none

/-- The place that a path names. A line break at the end of a path belongs to an id that it ends in,
and is passed over at the end of any other. -/
def ofPath? (path : String) : Option Site :=
  let cs := path.toList
  (ofExactPath? cs).orElse fun _ =>
    if cs.getLast? = some '\n' then ofExactPath? cs.dropLast else none

/-- What a method asks for at a place. Pages of the manual also answer to being asked about. -/
def route? (method : String) : Site → Option Route
  | .root => if method = "GET" then some .root else none
  | .health => if method = "GET" then some .health else none
  | .metrics => if method = "GET" then some .metrics else none
  | .catalog => if method = "GET" then some .catalog else none
  | .dynamicValues => if method = "GET" then some .dynamicValues else none
  | .validate => if method = "POST" then some .validate else none
  | .evaluate => if method = "POST" then some .evaluate else none
  | .context => if method = "POST" then some .context else none
  | .history t g =>
    if method = "GET" then some (.history .current t g)
    else if method = "POST" then some (.history .record t g)
    else if method = "DELETE" then some (.history .clear t g)
    else none
  | .undo t g => if method = "POST" then some (.history .undo t g) else none
  | .redo t g => if method = "POST" then some (.history .redo t g) else none
  | .manual page => if method = "GET" ∨ method = "HEAD" then some (.manual page) else none

end Site

/-- What becomes of a method at a path. -/
inductive Destination
  | found (route : Route)
  | wrongMethod (site : Site)
  /-- The path is that of a place but for slashes at its end; an empty one is that of the root. -/
  | elsewhere (site : Site)
  | nowhere
deriving DecidableEq, Repr

/-- A path without the slashes at its end. -/
def withoutSlashes (path : String) : String :=
  String.ofList ((path.toList.reverse.dropWhile (· == '/')).reverse)

def Destination.of (method path : String) : Destination :=
  match Site.ofPath? path with
  | some site =>
    match site.route? method with
    | some route => .found route
    | none => .wrongMethod site
  | none =>
    match if path.isEmpty then some .root else Site.ofPath? (withoutSlashes path) with
    | some site => .elsewhere site
    | none => .nowhere

end CourseAudit
