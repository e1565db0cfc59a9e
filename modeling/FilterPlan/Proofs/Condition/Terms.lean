/-
  How the reading of conditions ends.

  What is reported on the way never changes a result.  So the terms of a list of conditions are
  their formulas made in turn, those that there are (`outcome_terms`); the filter's formula groups
  them, and the predicate is the text of that formula (`outcome_formula?`, `outcome_compile`).
-/
import FilterPlan.Filter
import FilterPlan.Proofs.Traversal

namespace FilterPlan

/-- The conditions' formulas in turn, the first failure ending it all. -/
theorem Separators.outcome_terms (s : Separators) (conditions : List Condition) :
    (s.terms conditions).outcome
      = (conditions.mapM (Condition.formula? s)).map fun tests => tests.filterMap id := by
  induction conditions with
  | nil => rfl
  | cons c rest ih =>
    rw [Separators.terms, List.mapM_cons]
    cases c.formula? s with
    | error e => rfl
    | ok t =>
      cases t with
      | none =>
        rw [Journaled.outcome_bind, Journaled.outcome_report]
        show (s.terms rest).outcome = _
        rw [ih]
        cases rest.mapM (Condition.formula? s) with
        | error e => rfl
        | ok tests => rfl
      | some term =>
        rw [Journaled.outcome_bind, ih]
        cases rest.mapM (Condition.formula? s) with
        | error e => rfl
        | ok tests => rfl

/-- The formulas that there are, grouped under AND. -/
theorem Separators.outcome_formula? (s : Separators) (conditions : List Condition) :
    (s.formula? conditions).outcome
      = ((conditions.filter fun c => !c.fieldIsBlank).mapM (Condition.formula? s)).map
        fun tests => Formula.grouped? .and (tests.filterMap id) := by
  rw [formula?, Journaled.outcome_bind, outcome_terms]
  cases (conditions.filter fun c => !c.fieldIsBlank).mapM (Condition.formula? s) with
  | error e => rfl
  | ok tests => rfl

/-- The text of the formula, if there is one. -/
theorem Settings.outcome_compile (s : Settings) (conditions : List Condition) :
    (s.compile conditions).outcome = (s.separators.formula? conditions).outcome.map
      fun f => (f.map (Formula.predicate s.dialect)).getD { } := by
  rw [compile, Journaled.outcome_bind]
  cases (s.separators.formula? conditions).outcome with
  | error e => rfl
  | ok f =>
    cases f with
    | none => rfl
    | some f => rfl

end FilterPlan
