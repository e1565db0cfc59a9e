/-
  Plans, and whatever else a query can be applied to.

  1. **Targets** — a target takes a filter, an ordering clause and a window of rows, each on its
     own.  A query is applied to a target through these three calls only, and they may have any
     effect.  A target that is a value, replaced from call to call, is one that is kept as state.
  2. **Plans** — the target that notes what it was given last of each kind.
  3. **Call lists** — the target that notes every call, in order.
-/
import FilterPlan.Predicate
import FilterPlan.Page

namespace FilterPlan

/-! ## Targets -/

/-- What a query can be applied to, by calls with effects of a monad. -/
class Target (m : Type → Type) where
  /-- Takes a filter that is not empty. -/
  filter : Predicate → m Unit
  /-- Takes an ordering clause that is not empty. -/
  sort : String → m Unit
  /-- Takes a window of rows. -/
  page : Window → m Unit

/-- One call of a target. -/
inductive Call
  | filter (predicate : Predicate)
  | sort (clause : String)
  | page (window : Window)
deriving DecidableEq

/-- Makes the call. -/
def Call.make {m : Type → Type} [Target m] : Call → m Unit
  | .filter predicate => Target.filter predicate
  | .sort clause => Target.sort clause
  | .page window => Target.page window

/-! ## Plans -/

/-- A query in parts, for whoever runs it. -/
structure Plan where
  filter : Option Predicate := none
  ordering : Option String := none
  page : Option Window := none
deriving DecidableEq

instance : Target (StateM Plan) where
  filter predicate := modify fun plan => { plan with filter := some predicate }
  sort clause := modify fun plan => { plan with ordering := some clause }
  page window := modify fun plan => { plan with page := some window }

/-! ## Call lists -/

instance : Target (StateM (List Call)) where
  filter predicate := modify fun calls => calls ++ [.filter predicate]
  sort clause := modify fun calls => calls ++ [.sort clause]
  page window := modify fun calls => calls ++ [.page window]

end FilterPlan
