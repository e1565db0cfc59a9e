/-
  Requests: what a client asks of one query.
-/
import FilterPlan.Condition
import FilterPlan.Ordering
import FilterPlan.Page

namespace FilterPlan

/-- The conditions to filter by, the rules to sort by and the page to show. -/
structure Request where
  conditions : List Condition := []
  sorts : List SortRule := []
  page : Option Page := none
deriving DecidableEq

end FilterPlan
