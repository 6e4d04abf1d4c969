import CourseAudit.Evaluation.Reader

/-!
Whether a catalog and the table of readers fit together: every reader has a property in the
catalog, and every property of the catalog has a reader.
-/
namespace CourseAudit

/-- Group type, source and property by their names. -/
def PropertyKey.text (key : PropertyKey) : String :=
  key.group.label ++ " / " ++ key.source ++ " / " ++ key.property

/-- A place where a catalog and the readers do not fit. -/
inductive Misfit
  | readerWithoutProperty (key : PropertyKey)
  | propertyWithoutReader (key : PropertyKey)
deriving DecidableEq, Repr

def Misfit.message : Misfit → String
  | .readerWithoutProperty key => "Resolver without schema entry: " ++ key.text
  | .propertyWithoutReader key => "Schema entry without resolver: " ++ key.text

namespace Catalog

/-- Every misfit: readers first, then properties. Any name is a property of a source that is read
as a whole. -/
def misfits (c : Catalog) : List Misfit :=
  let keys := c.keys
  ((Reader.table.map (·.1)).filter (!keys.contains ·)).map .readerWithoutProperty ++
    (keys.filter fun key => (Reader.ofKey? key).isNone).map .propertyWithoutReader

/-- The messages of all misfits in order of their texts. -/
def coverageProblems (c : Catalog) : List String :=
  (c.misfits.map Misfit.message).mergeSort fun s t => decide (s ≤ t)

end Catalog
end CourseAudit
