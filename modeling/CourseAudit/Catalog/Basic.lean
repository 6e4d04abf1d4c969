import CourseAudit.Catalog.Rule
import CourseAudit.Value.Vocabulary

/-!
A catalog lists, for each type of condition group, its sources and for each source its properties
with their rules. All of its views read the same lists in the same order.
-/
namespace CourseAudit

/-- Properties of a source by name. -/
abbrev Properties := List (String × PropertyRule)

/-- Sources of a group type by name. -/
abbrev Sources := List (String × Properties)

/-- Rules by group type, source and property, with the version under which they are answered. -/
structure Catalog where
  version : Value
  groups : List (GroupType × Sources)

/-- A property with the source and the group type that it belongs to. -/
structure PropertyKey where
  group : GroupType
  source : String
  property : String
deriving DecidableEq, Repr

namespace Catalog

/-- The sources of a group type; of one that is not listed there are none. -/
def sourcesOf (c : Catalog) (group : GroupType) : Sources := (c.groups.lookup group).getD []

def propertiesOf (c : Catalog) (group : GroupType) (source : String) : Properties :=
  ((c.sourcesOf group).lookup source).getD []

/-- The rule of a property under a source of a group type. -/
def rule? (c : Catalog) (group : GroupType) (source property : String) : Option PropertyRule :=
  (c.propertiesOf group source).lookup property

/-- The rule of a property, with its place given by values. Nothing is found for a group type that
is none or for names that are not set; a source or property that can be no name is a fault. -/
def lookup (c : Catalog) (group source property : Value) :
    Except Fault (Option PropertyRule) := do
  match ← GroupType.ofValue? group with
  | none => return none
  | some g =>
    if source.isSet && property.isSet then do
      let sourceName ← source.key
      let propertyName ← property.key
      match sourceName, propertyName with
      | some s, some p => return c.rule? g s p
      | _, _ => return none
    else return none

/-- The rule of a property of items, for the sub-conditions of a property. -/
def itemRule? (rule : Option PropertyRule) (property : Value) :
    Except Fault (Option PropertyRule) :=
  match rule with
  | none => .ok none
  | some rule =>
    if property.isSet then do
      match ← property.key with
      | some name => return rule.itemRules.lookup name
      | none => return none
    else .ok none

def groupTypes (c : Catalog) : List GroupType := c.groups.map (·.1)

/-- The names of the sources of a group type, in order. -/
def sourceNames (c : Catalog) (group : Value) : Except Fault (List String) := do
  match ← GroupType.ofValue? group with
  | some g => return (c.sourcesOf g).map (·.1)
  | none => return []

/-- The properties of a source by name, in order. -/
def properties (c : Catalog) (group source : Value) : Except Fault Properties := do
  match ← GroupType.ofValue? group with
  | none => return []
  | some g =>
    match ← source.key with
    | some s => return c.propertiesOf g s
    | none => return []

/-- Every property of the catalog with its place, in order. -/
def keys (c : Catalog) : List PropertyKey :=
  c.groups.flatMap fun (group, sources) =>
    sources.flatMap fun (source, properties) =>
      properties.map fun (property, _) => ⟨group, source, property⟩

/-- The whole catalog as it is answered. -/
def toValue (c : Catalog) : Value :=
  let sourceEntry (entry : String × Properties) : String × Value :=
    (entry.1, .dict [("properties", .dict (PropertyRule.toEntries entry.2))])
  .dict [("version", c.version),
    ("groupTypes", .dict (c.groups.map fun (group, sources) =>
      (group.label, .dict (sources.map sourceEntry))))]

end Catalog
end CourseAudit
