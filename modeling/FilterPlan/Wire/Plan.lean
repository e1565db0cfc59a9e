/-
  Plans of texts.

  The settings are read first, the standard ones if there is no text for them, and then the request.
  Nothing is reported before both of them are read.
-/
import FilterPlan.Planner
import FilterPlan.Wire.Settings
import FilterPlan.Wire.Request

namespace FilterPlan

/-- The settings of a text, or the standard ones where no text is given. -/
def Settings.ofGiven : Option String → Except PlanError Settings
  | none => .ok { }
  | some text => ofText text

/-- The plan of a request that is given as a text, under settings that may be given as one. -/
def planOfTexts (settings : Option String) (request : String) : Journaled PlanError Plan := do
  let settings ← .ofExcept (Settings.ofGiven settings)
  let request ← .ofExcept (Request.ofText request)
  settings.plan request

end FilterPlan
