/-
  What a request asks for.

  1. **Calls** — a plan is made by one call for each part that it has.
  2. **Parts** — whether a part of a request is left out is decided by a text being empty, and a
     text is empty only where no condition says anything (`filter_partsOf`), or no rule is active
     (`ordering_partsOf`).
-/
import FilterPlan.Planner
import FilterPlan.Proofs.Condition.Appending
import FilterPlan.Proofs.Json.Records
import FilterPlan.Proofs.Ordering.Clause

namespace FilterPlan

/-! ## Calls -/

/-- The calls that make a plan: filter first, then ordering, then page. -/
def Plan.calls (plan : Plan) : List Call :=
  (plan.filter.map Call.filter).toList ++ (plan.ordering.map Call.sort).toList
    ++ (plan.page.map Call.page).toList

/-! ## Parts -/

/-- A list of conditions has terms if one of the conditions says something. -/
theorem Separators.terms_ne_nil_iff {s : Separators} {conditions : List Condition}
    {terms : List Formula} (h : (s.terms conditions).outcome = .ok terms) :
    terms ≠ [] ↔ ∃ c ∈ conditions, ∃ f, c.formula? s = .ok (some f) := by
  rw [outcome_terms] at h
  obtain ⟨tests, htests, rfl⟩ := exists_of_map_eq_ok h
  constructor
  · intro hne
    obtain ⟨f, hf⟩ := List.exists_mem_of_ne_nil _ hne
    obtain ⟨test, htest, rfl⟩ := List.mem_filterMap.1 hf
    obtain ⟨c, hc, hmade⟩ := exists_of_mem_mapM htests htest
    exact ⟨c, hc, f, hmade⟩
  · rintro ⟨c, hc, f, hf⟩
    obtain ⟨test, htest, hmade⟩ :=
      Json.forall₂_exists_left (forall₂_of_mapM_eq_ok htests).flip hc
    have hsome : some f = test := Except.ok.inj (hf.symm.trans hmade)
    exact List.ne_nil_of_mem (List.mem_filterMap.2 ⟨test, htest, hsome.symm⟩)

namespace Settings

/-- The ordering that rules ask for. -/
def orderingOf (s : Settings) (rules : List SortRule) : Option String :=
  if (SortRule.keys rules).isEmpty then none
  else some (OrderingKey.clause s.dialect (SortRule.keys rules))

/-- What a request whose conditions are compiled to the predicate asks for. -/
def partsOf (s : Settings) (p : Predicate) (request : Request) : Plan where
  filter := if p.isEmpty then none else some p
  ordering := s.orderingOf request.sorts
  page := request.page.map Page.window

/-- A filter is asked for where a condition says something.  It is then the text of the formula
    with the arguments of that, and otherwise nothing at all is compiled. -/
theorem filter_partsOf {s : Settings} {request : Request} {p : Predicate}
    (h : (s.compile request.conditions).outcome = .ok p) :
    ((s.partsOf p request).filter.isSome ↔
      ∃ c ∈ request.conditions, ∃ f, c.formula? s.separators = .ok (some f)) ∧
    (∀ q ∈ (s.partsOf p request).filter, q = p ∧ q.expression ≠ "" ∧
      ∃ f, (s.separators.formula? request.conditions).outcome = .ok (some f) ∧
        q = f.predicate s.dialect ∧
        q.arguments = f.atoms.filterMap (Atom.argument? s.dialect)) ∧
    ((s.partsOf p request).filter = none → p.expression = "" ∧ p.arguments = []) := by
  obtain ⟨terms, hterms, rfl, hempty⟩ := exists_terms_of_compile h
  rw [← Separators.terms_ne_nil_iff hterms, partsOf, hempty]
  cases terms with
  | nil => exact ⟨⟨nofun, fun hne => absurd rfl hne⟩, nofun, fun _ => ⟨rfl, rfl⟩⟩
  | cons term rest =>
    refine ⟨⟨fun _ => List.cons_ne_nil _ _, fun _ => rfl⟩, ?_, nofun⟩
    intro q hq
    obtain rfl := Option.some.inj hq
    have htext : (Formula.conjunction s.dialect (term :: rest)).expression ≠ "" := by
      intro hnone
      rw [Predicate.isEmpty, hnone] at hempty
      exact Bool.noConfusion (show true = false from hempty)
    refine ⟨rfl, htext, .junction .and true (term :: rest), ?_, rfl,
      Formula.arguments_conjunction _ _⟩
    rw [Separators.outcome_formula?_terms, hterms]
    rfl

/-- An ordering is asked for where a rule is active, and then it has a text. -/
theorem ordering_partsOf (s : Settings) (p : Predicate) (request : Request) :
    ((s.partsOf p request).ordering.isSome ↔
      ∃ rule ∈ request.sorts, rule.direction ≠ .unsorted) ∧
    (∀ clause ∈ (s.partsOf p request).ordering, clause ≠ "" ∧
      clause = OrderingKey.clause s.dialect (SortRule.keys request.sorts)) := by
  rw [← SortRule.keys_ne_nil_iff, partsOf, orderingOf]
  cases SortRule.keys request.sorts with
  | nil => exact ⟨⟨nofun, fun hne => absurd rfl hne⟩, nofun⟩
  | cons key rest =>
    have hne : key :: rest ≠ [] := List.cons_ne_nil key rest
    refine ⟨⟨fun _ => hne, fun _ => rfl⟩, ?_⟩
    intro clause hclause
    obtain rfl := Option.some.inj hclause
    exact ⟨OrderingKey.clause_ne_empty s.dialect hne, rfl⟩

end Settings

end FilterPlan
