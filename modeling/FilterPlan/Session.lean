/-
  Sessions: one target worked on in steps.

  1. **State** — the settings in force and the target as it is.  New settings replace the old ones
     and leave the target; a reset gives a fresh target and leaves the settings.
  2. **Steps** — whether or not a step fails, the next one finds the target as the calls of this one
     have left it.
-/
import FilterPlan.Planner
import FilterPlan.Wire.Settings
import FilterPlan.Wire.Request

namespace FilterPlan

/-! ## State -/

/-- The settings in force and the target as it is. -/
structure Session (τ : Type) where
  settings : Settings := { }
  target : τ

/-- The settings in words, as a report on the planner that they make. -/
def Settings.describe (s : Settings) : String :=
  let char (c : Char) : String := (if c = '\'' ∨ c = '\\' then "\\" else "") ++ c.toString
  let dialect := "dialect: \"" ++ s.dialect.name ++ "\" \x7d"
  "QueryBuilder \x7b predicates: PredicateCompiler \x7b syntax: ConditionSyntax \x7b "
    ++ "field_separator: '" ++ char s.separators.field ++ "', "
    ++ "value_separator: '" ++ char s.separators.value ++ "' \x7d, " ++ dialect
    ++ ", sorts: SortCompiler \x7b " ++ dialect ++ " \x7d"

/-! ## Steps -/

/-- What can be done in a session. -/
inductive Step
  /-- Puts the settings of a text in force. -/
  | configure (settings : String)
  | filter (conditions : List Condition)
  | sort (rules : List SortRule)
  | page (page : Page)
  /-- Applies the request of a text. -/
  | apply (request : String)
  | reset
deriving DecidableEq

variable {τ : Type} [Target (StateM τ)]

/-- What a step does to the target under the settings in force. -/
def Step.perform (fresh : τ) (settings : Settings) : Step → JournaledT PlanError (StateM τ) Unit
  | .configure _ => pure ()
  | .filter conditions => settings.filterBy conditions
  | .sort rules => settings.sortBy rules
  | .page p => Settings.cutTo p
  | .apply text => do
    let request ← JournaledT.ofJournaled (Journaled.ofExcept (Request.ofText text))
    settings.apply request
  | .reset => JournaledT.lift (set fresh)

/-- The settings that a step puts in force, given those before. -/
def Step.reconfigure (settings : Settings) : Step → Except PlanError Settings
  | .configure text => Settings.ofText text
  | _ => .ok settings

namespace Session

/-- How a step ends, and the session that it leaves. -/
def take (fresh : τ) (s : Session τ) (step : Step) : Except PlanError Unit × Session τ :=
  match step.reconfigure s.settings with
  | .error e => (.error e, s)
  | .ok settings =>
    let (made, target) := (step.perform fresh s.settings).run.run s.target
    (made.outcome, ⟨settings, target⟩)

/-- The session that a step leaves. -/
def next (fresh : τ) (s : Session τ) (step : Step) : Session τ := (s.take fresh step).2

/-- How each step of a run ends, and the session that it leaves. -/
def run (fresh : τ) (s : Session τ) : List Step → List (Except PlanError Unit × Session τ)
  | [] => []
  | step :: rest => s.take fresh step :: (s.next fresh step).run fresh rest

/-- The session at the end of a run. -/
def final (fresh : τ) (s : Session τ) (steps : List Step) : Session τ :=
  steps.foldl (next fresh) s

end Session

end FilterPlan
