import CourseAudit.Catalog.Basic
import CourseAudit.Vocabulary.Unknown

/-!
Catalogs written as nested tables: group types, sources, properties and their rules by name.
-/
namespace CourseAudit

/-- Why a table is no catalog. -/
inductive CatalogDefect
  | unknown (u : UnknownMember)
  /-- A rule of this kind of value calls for sub-conditions and offers no properties for them. -/
  | noItemRules (valueType : ValueType)
  /-- A rule does not say what kind of value its property has. -/
  | noValueType
  /-- A part of the table is not what stands at its place. -/
  | misplaced (f : Fault)

namespace CatalogDefect

/-- What is said about a rule that calls for sub-conditions in vain. -/
def noItemRulesMessage : String := "Property requires sub-conditions but defines none"

end CatalogDefect

/-- The entries of a table; of anything else there are none. -/
def Value.entries : Value → List (String × Value)
  | .dict entries => entries
  | _ => []

def memberOrDefect {α : Type} (vocabulary : String) (label : α → String) (members : List α)
    (v : Value) : Except CatalogDefect α :=
  match memberOf vocabulary label members v with
  | .ok a => .ok a
  | .error u => .error (.unknown u)

namespace PropertyRule

/-- The values of a list under a name, of which there are none when the name is not there. -/
def valuesAt (entries : List (String × Value)) (name : String) :
    Except CatalogDefect (List Value) :=
  match Value.get? entries name with
  | none | some .null => .ok []
  | some v =>
    match v.members with
    | .ok values => .ok values
    | .error f => .error (.misplaced f)

/-- A rule by its entries, when the rules of its items have been read. -/
def ofEntries (entries : List (String × Value))
    (itemRules : Except CatalogDefect (List (String × PropertyRule))) :
    Except CatalogDefect PropertyRule :=
  match Value.get? entries "valueType" with
  | none => .error .noValueType
  | some named => do
    let valueType ← memberOrDefect "ValueType" ValueType.label ValueType.all named
    let options ← valuesAt entries "options"
    let operators ← valuesAt entries "operators"
    let needs := ((Value.get? entries "requires").map Value.isSet).getD false
    match build valueType options operators (← itemRules) needs with
    | .ok rule => return rule
    | .error valueType => throw (.noItemRules valueType)

mutual

/-- The rule that a table writes. -/
def ofValue : Value → Except CatalogDefect PropertyRule
  | .dict entries => ofEntries entries (itemRulesOf entries)
  | _ => .error (.misplaced .mismatch)

/-- The rules of items among the entries of a rule. -/
def itemRulesOf : List (String × Value) → Except CatalogDefect (List (String × PropertyRule))
  | [] => .ok []
  | ("sub", .dict entries) :: _ => ofNamed entries
  | ("sub", v) :: _ => if v.isNull then .ok [] else .error (.misplaced .absent)
  | _ :: rest => itemRulesOf rest

/-- The rules that a table writes under names. -/
def ofNamed : List (String × Value) → Except CatalogDefect (List (String × PropertyRule))
  | [] => .ok []
  | (name, v) :: rest => do
    let rule ← ofValue v
    let others ← ofNamed rest
    return (name, rule) :: others

end

end PropertyRule

/-- The entries that a part of a catalog has to have. -/
def entriesOrDefect : Value → Except CatalogDefect (List (String × Value))
  | .dict entries => .ok entries
  | _ => .error (.misplaced .absent)

/-- The catalog that a table writes. -/
def Catalog.ofValue (version v : Value) : Except CatalogDefect Catalog := do
  let groups ← (← entriesOrDefect v).mapM fun (group, sources) => do
    let g ← memberOrDefect "ConditionGroupType" GroupType.label GroupType.all (.text group)
    let read ← (← entriesOrDefect sources).mapM fun (source, properties) => do
      return (source, ← PropertyRule.ofNamed (← entriesOrDefect properties))
    return (g, read)
  return ⟨version, groups⟩

end CourseAudit
