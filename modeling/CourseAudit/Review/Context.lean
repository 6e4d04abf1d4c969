import CourseAudit.Review.Result

/-!
A task evaluated over many sections, so that an editor can look through those that pass or fail.
-/
namespace CourseAudit

/-- What the conditions of a task look at. -/
inductive ContextLabel
  | syllabus | lms | attribute | mixed
deriving DecidableEq, Repr

namespace ContextLabel

def text : ContextLabel → String
  | .syllabus => "Syllabus"
  | .lms => "LMS"
  | .attribute => "Attribute"
  | .mixed => "Mixed"

def ofGroup : GroupType → ContextLabel
  | .syllabus => .syllabus
  | .lms => .lms
  | .attribute => .attribute

end ContextLabel

/-- The group types that the conditions of a task name. -/
def PlanTask.groupTypes (t : PlanTask) : Except Fault (List GroupType) := do
  let found ← (← t.conditions).mapM fun slot => do
    let c ← slot.get
    if c.groupType.isSet then GroupType.ofValue? c.groupType else return none
  return found.filterMap fun group => group

/-- The label of the only group type that the conditions name, or that of a mixture. -/
def PlanTask.contextLabel (t : PlanTask) : Except Fault ContextLabel :=
  t.groupTypes.map fun types =>
    match types with
    | [] => .mixed
    | g :: rest => if rest.all (· == g) then .ofGroup g else .mixed

/-- The outcome of one section. -/
structure ContextEntry where
  id : String
  label : ContextLabel
  name : Value
  sectionId : Value
  outcome : Outcome
deriving Repr

namespace ContextLabel

/-- Ids of entries are told apart by their labels. -/
def idOf (label : ContextLabel) (s : Section) : Except Fault String := do
  return label.text ++ "-" ++ (← s.id.write)

/-- Names of course shells are told from those of their sections. -/
def nameOf (label : ContextLabel) (s : Section) : Except Fault Value :=
  if label = .lms then do return .text ((← s.name.write) ++ " LMS") else .ok s.name

/-- The entry of a section with an outcome. -/
def entryOf (label : ContextLabel) (s : Section) (outcome : Outcome) :
    Except Fault ContextEntry := do
  return ⟨← label.idOf s, label, ← label.nameOf s, s.id, outcome⟩

end ContextLabel

def ContextEntry.view (e : ContextEntry) : Except Fault Value := do
  return .dict [("id", .text e.id), ("name", e.name), ("passes", .bool e.outcome.passes),
    ("label", .text e.label.text), ("section_id", e.sectionId),
    ("result", .dict (← e.outcome.view))]

namespace PlanTask

/-- The entry of one section, which a task without groups does not have. -/
def contextEntry (catalog : Catalog) (context : EvaluationContext) (t : PlanTask)
    (label : ContextLabel) (slot : Slot Section) : Except Fault (Option ContextEntry) := do
  match ← t.evaluate catalog context slot with
  | none => return none
  | some outcome => return some (← label.entryOf (← slot.get) outcome)

/-- The outcomes of a task for every section, in order; none for a task that is decided by hand or
is incomplete. -/
def contextEntries (catalog : Catalog) (context : EvaluationContext) (t : PlanTask)
    (sections : Slots Section) : Except Fault (List ContextEntry) :=
  if !t.groups.isSet then .ok []
  else do
    if ← t.isIncomplete catalog then return []
    let label ← t.contextLabel
    let entries ← (← sections.members).mapM (t.contextEntry catalog context label)
    return entries.filterMap fun entry => entry

end PlanTask

/-- The entries of a verdict, in order. -/
def filterEntries (mode : Verdict) (entries : List ContextEntry) : List ContextEntry :=
  entries.filter fun e => e.outcome.passes == mode.passes

end CourseAudit
