/-
  Why a query fails.

  1. **Causes** — a range that packs no two bounds, a word outside the vocabulary, or a text that
     cannot be read at all.
  2. **Classes** — a malformed range and an unreadable request are the client's fault.  All else
     is the fault of whoever wrote the client or the settings.
-/
import FilterPlan.Condition.Formula

namespace FilterPlan

/-- Why a query fails. -/
inductive PlanError
  | malformedRange (e : MalformedRange)
  | vocabulary (e : VocabularyError)
  /-- The request is not JSON of the right shape. -/
  | malformedRequest
  /-- The settings file cannot be read. -/
  | unreadableSettings (path : String)
  /-- The settings are not JSON of the right shape. -/
  | malformedSettings
deriving DecidableEq

/-- Who is to answer for a failure. -/
inductive Origin
  | client
  | internal
deriving DecidableEq

namespace PlanError

/-- Who is to answer for the failure. -/
def origin : PlanError → Origin
  | .malformedRange _ => .client
  | .malformedRequest => .client
  | .vocabulary _ => .internal
  | .unreadableSettings _ => .internal
  | .malformedSettings => .internal

/-- The error in words. -/
def message : PlanError → String
  | .malformedRange e => "Failed to compile filter: " ++ e.message
  | .vocabulary e => "Invalid query model: " ++ e.message
  | .malformedRequest => "Failed to parse query request"
  | .unreadableSettings path => "Failed to read settings file " ++ path
  | .malformedSettings => "Failed to parse settings"

end PlanError

end FilterPlan
