/-
  From a list of conditions to a filter.

  1. **Terms** — each condition that has a field is read in turn.  One that says nothing is
     reported and dropped; a malformed range is reported and ends it all.
  2. **Formula** — the terms are grouped under AND.  No terms give no formula.
  3. **Predicate** — the formula's text with its arguments, in the dialect of the settings.
-/
import FilterPlan.Journal
import FilterPlan.Settings
import FilterPlan.Predicate
import FilterPlan.Formula.Template

namespace FilterPlan

namespace Separators

open Journaled (report fail)

/-- The formulas of the conditions that say something. -/
def terms (s : Separators) : List Condition → Journaled MalformedRange (List Formula)
  | [] => pure []
  | c :: rest =>
    match c.formula? s with
    | .error e => do
      report (.malformedRange e)
      fail e
    | .ok none => do
      report (.conditionDropped c)
      s.terms rest
    | .ok (some term) => do
      let terms ← s.terms rest
      return term :: terms

/-- The conjunction of what the conditions say; no formula when they say nothing. -/
def formula? (s : Separators) (conditions : List Condition) :
    Journaled MalformedRange (Option Formula) := do
  let terms ← s.terms (conditions.filter fun c => !c.fieldIsBlank)
  return Formula.grouped? .and terms

end Separators

/-- The text and the arguments of a formula. -/
def Formula.predicate (d : Dialect) (f : Formula) : Predicate :=
  let draft := ({ } : Draft).push d (f.template d)
  ⟨draft.text, draft.arguments⟩

/-- The filter that a list of conditions asks for; an empty one when they ask for nothing. -/
def Settings.compile (s : Settings) (conditions : List Condition) :
    Journaled MalformedRange Predicate := do
  match ← s.separators.formula? conditions with
  | none =>
    Journaled.report (.noFilterTerms conditions.length)
    return { }
  | some f =>
    let predicate := f.predicate s.dialect
    Journaled.report
      (.filterCompiled conditions.length predicate.arguments.length s.dialect)
    return predicate

example : (({ dialect := .postgres } : Settings).compile
    [{ field := "Name", operator := .contains, value := "ob" }]).outcome =
      .ok ⟨"(\"Name\" LIKE $1 ESCAPE '\\')", ["%ob%"]⟩ := rfl

end FilterPlan
