/-
  Events: what is reported while a query is planned.

  Each constructor is one kind of event with what it tells.  Its level, its wording and its fields
  by name are read off it, so a report cannot disagree with the event.
-/
import FilterPlan.Condition.Formula
import FilterPlan.Dialect
import FilterPlan.Page
import FilterPlan.Json.Value

namespace FilterPlan

/-- How much an event matters, least first. -/
inductive Level
  | trace
  | debug
  | info
  | warn
deriving DecidableEq

/-- The word for a level. -/
def Level.word : Level → String
  | .trace => "trace"
  | .debug => "debug"
  | .info => "info"
  | .warn => "warn"

/-- Something that happened while a query was planned. -/
inductive Event
  /-- A condition says nothing. -/
  | conditionDropped (c : Condition)
  | malformedRange (e : MalformedRange)
  /-- None of so many conditions says anything. -/
  | noFilterTerms (conditions : Nat)
  | filterCompiled (conditions arguments : Nat) (dialect : Dialect)
  | filterSkipped
  | filterApplied (expression : String) (arguments : Nat)
  | orderingCompiled (keys : Nat) (clause : String)
  | orderingSkipped
  | orderingApplied (clause : String)
  | pageApplied (window : Window)
  | requestApplied (conditions sorts : Nat) (paged : Bool)
deriving DecidableEq

namespace Event

/-- How much the event matters. -/
def level : Event → Level
  | .conditionDropped _ => .trace
  | .malformedRange _ => .warn
  | .requestApplied _ _ _ => .info
  | _ => .debug

/-- The event in words. -/
def message : Event → String
  | .conditionDropped _ => "Condition dropped"
  | .malformedRange _ => "Range filter value does not hold exactly two bounds"
  | .noFilterTerms _ => "No filter terms produced, skipping predicate"
  | .filterCompiled _ _ _ => "Compiled filter predicate"
  | .filterSkipped => "No effective conditions, filter skipped"
  | .filterApplied _ _ => "Applying filter"
  | .orderingCompiled _ _ => "Compiled ordering clause"
  | .orderingSkipped => "No active sorts, ordering skipped"
  | .orderingApplied _ => "Applying ordering"
  | .pageApplied _ => "Applying page"
  | .requestApplied _ _ _ => "Query request applied"

/-- What the event tells, by name. -/
def fields : Event → List (String × Json)
  | .conditionDropped c => [("condition", .text c.display)]
  | .malformedRange e =>
    [("field", .text e.field), ("value", .text e.value), ("bounds", .nat e.bounds)]
  | .noFilterTerms conditions => [("conditions", .nat conditions)]
  | .filterCompiled conditions arguments dialect =>
    [("conditions", .nat conditions), ("arguments", .nat arguments),
      ("dialect", .text dialect.name)]
  | .filterSkipped => []
  | .filterApplied expression arguments =>
    [("expression", .text expression), ("arguments", .nat arguments)]
  | .orderingCompiled keys clause => [("keys", .nat keys), ("clause", .text clause)]
  | .orderingSkipped => []
  | .orderingApplied clause => [("ordering", .text clause)]
  | .pageApplied window =>
    [("offset", .nat window.offset.toNat), ("limit", .nat window.limit.toNat)]
  | .requestApplied conditions sorts paged =>
    [("conditions", .nat conditions), ("sorts", .nat sorts), ("paged", .bool paged)]

end Event

end FilterPlan
