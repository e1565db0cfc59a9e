/-
  How queries are to be read and written.
-/
import FilterPlan.Separators
import FilterPlan.Dialect

namespace FilterPlan

/-- The separators that conditions are read with and the dialect that queries are written in. -/
structure Settings where
  separators : Separators := { }
  dialect : Dialect := .dynamicLinq
deriving DecidableEq

end FilterPlan
