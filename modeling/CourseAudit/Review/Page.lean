import CourseAudit.Number.Binary64

/-!
Pages of a list. Pages count from one, and a page outside of the range is taken to its nearest
end; an empty list has one page with nothing on it.
-/
namespace CourseAudit

/-- One page with where it stands. -/
structure Page (α : Type) where
  entries : List α
  page : Nat
  pageSize : Nat
  total : Nat
deriving Repr

namespace Page

/-- How many pages of a size hold a number of entries: their quotient, which is rounded to a binary
number before it is taken up to a whole one. Only a list beyond all numbers would have an infinite
quotient. -/
def count (total pageSize : Nat) : Nat :=
  max 1 (((Binary64.ofRatio false total pageSize).ceil?).getD 1).toNat

/-- The size that a request for a size means. -/
def effectiveSize (requested : Int) : Nat := (max 1 requested).toNat

def ofList {α : Type} (entries : List α) (page pageSize : Int) : Page α :=
  let size := effectiveSize pageSize
  let total := entries.length
  let current := (min (max page 1) (count total size)).toNat
  ⟨(entries.drop ((current - 1) * size)).take size, current, size, total⟩

variable {α : Type}

/-- The number of entries before the page. -/
def start (p : Page α) : Nat := (p.page - 1) * p.pageSize

/-- The positions of the first and the last entry, counted from one, and the number of all. -/
def rangeLabel (p : Page α) : String :=
  if p.total = 0 then "0 of 0"
  else
    toString (p.start + 1) ++ "-" ++ toString (min (p.start + p.pageSize) p.total) ++ " of " ++
      toString p.total

def hasPrevious (p : Page α) : Bool := decide (1 < p.page)

def hasNext (p : Page α) : Bool := decide (p.page < count p.total p.pageSize)

end Page
end CourseAudit
