/-
  Compiled filters.
-/

namespace FilterPlan

/-- An expression with placeholders, and the arguments that they stand for: the argument at index
    `i` belongs to placeholder `i`, so the two halves only travel together. -/
structure Predicate where
  expression : String := ""
  arguments : List String := []
deriving DecidableEq

/-- Holds of the predicate that filters nothing. -/
def Predicate.isEmpty (p : Predicate) : Bool := p.expression.isEmpty

end FilterPlan
