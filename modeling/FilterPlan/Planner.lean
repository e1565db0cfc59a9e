/-
  Applying a query to a target.

  1. **Parts** — a filter, an ordering and a page are applied each on its own.  A part that asks
     for nothing leaves the target alone, so a target is never given an empty filter or an empty
     clause.
  2. **Requests** — a request is applied filter first, then ordering, then page.  The filter is
     the only part that can fail, and it does so before any call.
-/
import FilterPlan.Filter
import FilterPlan.Request
import FilterPlan.Plan
import FilterPlan.PlanError

namespace FilterPlan

namespace Settings

open JournaledT (report lift ofJournaled)

variable {m : Type → Type} [Monad m] [Target m]

/-! ## Parts -/

/-- Filters the target, unless the predicate is empty. -/
def filterWith (predicate : Predicate) : JournaledT PlanError m Unit :=
  if predicate.isEmpty then report .filterSkipped
  else do
    report (.filterApplied predicate.expression predicate.arguments.length)
    lift (Target.filter predicate)

/-- Filters the target by the conjunction of the conditions. -/
def filterBy (s : Settings) (conditions : List Condition) : JournaledT PlanError m Unit := do
  let predicate ← ofJournaled ((s.compile conditions).mapError .malformedRange)
  filterWith predicate

/-- The ordering clause that a list of rules asks for; an empty one when they ask for nothing. -/
def orderingClause (s : Settings) (rules : List SortRule) : Journaled PlanError String := do
  let keys := SortRule.keys rules
  if keys.isEmpty then return ""
  else
    let clause := OrderingKey.clause s.dialect keys
    Journaled.report (.orderingCompiled keys.length clause)
    return clause

/-- The clause is that of the keys, with no text if there are none. -/
theorem outcome_orderingClause (s : Settings) (rules : List SortRule) :
    (s.orderingClause rules).outcome
      = .ok (OrderingKey.clause s.dialect (SortRule.keys rules)) := by
  rw [orderingClause]
  by_cases hnone : (SortRule.keys rules).isEmpty = true
  · simp only [List.isEmpty_iff.1 hnone]
    rfl
  · simp only [if_neg hnone]
    rfl

/-- Orders the target, unless the clause is empty. -/
def sortWith (clause : String) : JournaledT PlanError m Unit :=
  if clause.isEmpty then report .orderingSkipped
  else do
    report (.orderingApplied clause)
    lift (Target.sort clause)

/-- Orders the target by the active rules. -/
def sortBy (s : Settings) (rules : List SortRule) : JournaledT PlanError m Unit := do
  let clause ← ofJournaled (s.orderingClause rules)
  sortWith clause

/-- Cuts the target down to a page. -/
def cutTo (page : Page) : JournaledT PlanError m Unit := do
  report (.pageApplied page.window)
  lift (Target.page page.window)

/-- Cuts the target down if a page is asked for. -/
def cutToAny : Option Page → JournaledT PlanError m Unit
  | some page => cutTo page
  | none => pure ()

/-! ## Requests -/

/-- Applies the whole of a request to the target. -/
def apply (s : Settings) (request : Request) : JournaledT PlanError m Unit := do
  s.filterBy request.conditions
  s.sortBy request.sorts
  cutToAny request.page
  report (.requestApplied request.conditions.length request.sorts.length request.page.isSome)

/-- The plan of a request, unless it fails: whatever the plan is by then, it is given up. -/
def plan (s : Settings) (request : Request) : Journaled PlanError Plan :=
  let (made, plan) := (s.apply request : JournaledT PlanError (StateM Plan) Unit).run.run { }
  ⟨made.events, made.outcome.map fun _ => plan⟩

example : (({ } : Settings).plan { page := some ⟨2, 10⟩ }).outcome =
    .ok { page := some ⟨10, 10⟩ } := by cbv

end Settings

end FilterPlan
