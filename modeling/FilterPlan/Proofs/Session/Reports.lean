/-
  What is reported of a request.

  1. **Conditions** — of conditions that can all be read, those that say nothing are reported as
     dropped, each in its turn, and nothing is reported of the others.  So what is dropped and what
     is kept add up.  A malformed range is reported last, as the reading ends there.
  2. **Requests** — behind the dropped conditions come the reports of the filter, the ordering and
     the page, two for what is done and fewer for what is left out.
  3. **The crux (`announced_reports`)** — of all this, what goes before a call is the announcement
     of a part that the plan has.
-/
import FilterPlan.Proofs.Session.Parts

namespace FilterPlan

/-! ## Conditions -/

/-- Holds of conditions that can be read and say nothing. -/
def Condition.saysNothing (s : Separators) (c : Condition) : Bool :=
  (c.formula? s).toOption.any Option.isNone

namespace Separators

variable {s : Separators} {conditions : List Condition}

/-- **One condition.**  It fails and that is reported, or it is reported as dropped, or it adds its
    term and nothing is reported. -/
theorem terms_cons (s : Separators) (c : Condition) (rest : List Condition) :
    (∃ e, c.formula? s = .error e ∧ s.terms (c :: rest) = ⟨[.malformedRange e], .error e⟩) ∨
    (c.saysNothing s = true ∧ s.terms (c :: rest)
      = ⟨.conditionDropped c :: (s.terms rest).events, (s.terms rest).outcome⟩) ∨
    ∃ term, c.saysNothing s = false ∧ s.terms (c :: rest)
      = ⟨(s.terms rest).events, (s.terms rest).outcome.map (term :: ·)⟩ := by
  rw [Separators.terms, Condition.saysNothing]
  cases c.formula? s with
  | error e => exact .inl ⟨e, rfl, rfl⟩
  | ok term =>
    cases term with
    | none => exact .inr (.inl ⟨rfl, rfl⟩)
    | some term =>
      refine .inr (.inr ⟨term, rfl, ?_⟩)
      rcases s.terms rest with ⟨events, _ | terms⟩
      · rfl
      · show Journaled.mk (events ++ []) _ = _
        rw [List.append_nil]
        rfl

/-- **Dropped or kept.**  The conditions that say nothing are reported in their order, and all the
    others have a term. -/
theorem events_terms {terms : List Formula} (h : (s.terms conditions).outcome = .ok terms) :
    (s.terms conditions).events
      = (conditions.filter (Condition.saysNothing s)).map Event.conditionDropped ∧
    (conditions.filter (Condition.saysNothing s)).length + terms.length = conditions.length := by
  induction conditions generalizing terms with
  | nil =>
    rw [← Except.ok.inj h]
    exact ⟨rfl, rfl⟩
  | cons c rest ih =>
    rcases s.terms_cons c rest with ⟨e, -, hc⟩ | ⟨hdropped, hc⟩ | ⟨term, hkept, hc⟩
    · rw [hc] at h
      cases h
    · rw [hc] at h ⊢
      obtain ⟨hevents, hcount⟩ := ih h
      rw [List.filter_cons_of_pos hdropped, hevents, List.map_cons, List.length_cons,
        List.length_cons]
      exact ⟨rfl, by omega⟩
    · rw [hc] at h ⊢
      obtain ⟨others, hothers, rfl⟩ := exists_of_map_eq_ok h
      obtain ⟨hevents, hcount⟩ := ih hothers
      rw [List.filter_cons_of_neg (by simp [hkept]), hevents, List.length_cons, List.length_cons]
      exact ⟨rfl, by omega⟩

/-- **The end of a failure.**  Reading ends with the report of the failure, behind those of the
    conditions that were dropped before it. -/
theorem events_terms_of_error {e : MalformedRange} (h : (s.terms conditions).outcome = .error e) :
    ∃ (before : List Condition) (c : Condition) (after : List Condition),
      conditions = before ++ c :: after ∧ c.formula? s = .error e ∧
      (s.terms conditions).events
        = (before.filter (Condition.saysNothing s)).map Event.conditionDropped
          ++ [.malformedRange e] := by
  induction conditions with
  | nil => cases h
  | cons c rest ih =>
    rcases s.terms_cons c rest with ⟨e', hfails, hc⟩ | ⟨hdropped, hc⟩ | ⟨term, hkept, hc⟩
    · rw [hc] at h ⊢
      obtain rfl : e' = e := Except.error.inj h
      exact ⟨[], c, rest, rfl, hfails, rfl⟩
    · rw [hc] at h ⊢
      obtain ⟨before, bad, after, rfl, hbad, hevents⟩ := ih h
      refine ⟨c :: before, bad, after, rfl, hbad, ?_⟩
      rw [List.filter_cons_of_pos hdropped, hevents]
      rfl
    · rw [hc] at h ⊢
      obtain ⟨before, bad, after, rfl, hbad, hevents⟩ := ih (map_eq_error_iff.1 h)
      refine ⟨c :: before, bad, after, rfl, hbad, ?_⟩
      rw [List.filter_cons_of_neg (by simp [hkept]), hevents]

end Separators

/-! ## Requests -/

namespace Request

/-- The conditions that name a field. -/
def named (request : Request) : List Condition := request.conditions.filter fun c => !c.fieldIsBlank

/-- Those of them that say nothing. -/
def dropped (s : Separators) (request : Request) : List Condition :=
  request.named.filter (Condition.saysNothing s)

/-- All terms come from the conditions that name a field. -/
theorem outcome_terms_named (s : Separators) (request : Request) :
    (s.terms request.named).outcome = (s.terms request.conditions).outcome :=
  s.outcome_terms_filter request.conditions

end Request

namespace Settings

/-- What is reported of a filter behind the dropped conditions. -/
def filterReports (s : Settings) (conditions : List Condition) : Option Predicate → List Event
  | none => [.noFilterTerms conditions.length, .filterSkipped]
  | some p => [.filterCompiled conditions.length p.arguments.length s.dialect,
      .filterApplied p.expression p.arguments.length]

/-- What is reported of an ordering. -/
def orderingReports (rules : List SortRule) : Option String → List Event
  | none => [.orderingSkipped]
  | some clause => [.orderingCompiled (SortRule.keys rules).length clause, .orderingApplied clause]

/-- What is reported of a request and its plan, all but the end. -/
def reports (s : Settings) (request : Request) (plan : Plan) : List Event :=
  (request.dropped s.separators).map Event.conditionDropped
    ++ s.filterReports request.conditions plan.filter
    ++ orderingReports request.sorts plan.ordering ++ (plan.page.map Event.pageApplied).toList

variable {s : Settings} {p : Predicate}

/-- What is reported while conditions are compiled: those that are dropped, and then whether there
    is a filter. -/
theorem events_compile {request : Request}
    (h : (s.compile request.conditions).outcome = .ok p) :
    (s.compile request.conditions).events
      = (request.dropped s.separators).map Event.conditionDropped
        ++ [if p.isEmpty then .noFilterTerms request.conditions.length
          else .filterCompiled request.conditions.length p.arguments.length s.dialect] := by
  obtain ⟨terms, hterms, rfl, hempty⟩ := exists_terms_of_compile h
  have hnamed := (request.outcome_terms_named s.separators).trans hterms
  have hformula : (s.separators.formula? request.conditions).outcome
      = .ok (Formula.grouped? .and terms) := by
    rw [Separators.outcome_formula?_terms, hterms]
    rfl
  have hevents : (s.separators.formula? request.conditions).events
      = (request.dropped s.separators).map Event.conditionDropped := by
    show (s.separators.terms request.named >>= _).events = _
    rw [Journaled.events_bind_ok hnamed, (Separators.events_terms hnamed).1]
    exact List.append_nil _
  rw [compile, Journaled.events_bind_ok hformula, hevents, hempty]
  cases terms with
  | nil => rfl
  | cons term rest => rfl

/-- A request that fails has reported what was dropped before the malformed range, and that. -/
theorem events_compile_of_error {request : Request} {m : MalformedRange}
    (h : (s.compile request.conditions).outcome = .error m) :
    ∃ (before : List Condition) (c : Condition) (after : List Condition),
      request.named = before ++ c :: after ∧
      c.formula? s.separators = .error m ∧
      (s.compile request.conditions).events
        = (before.filter (Condition.saysNothing s.separators)).map Event.conditionDropped
          ++ [.malformedRange m] := by
  have hterms := terms_of_compile_error h
  have hnamed := (request.outcome_terms_named s.separators).trans hterms
  have hformula : (s.separators.formula? request.conditions).outcome = .error m := by
    rw [Separators.outcome_formula?_terms, hterms]
    rfl
  obtain ⟨before, c, after, hsplit, hc, hevents⟩ := Separators.events_terms_of_error hnamed
  refine ⟨before, c, after, hsplit, hc, ?_⟩
  rw [compile, Journaled.events_bind_error hformula]
  show (s.separators.terms request.named >>= _).events = _
  rw [Journaled.events_bind_error hnamed, hevents]

/-- What is reported while an ordering is compiled: the clause, if there is one. -/
theorem events_orderingClause (s : Settings) (rules : List SortRule) :
    (s.orderingClause rules).events
      = if (SortRule.keys rules).isEmpty then []
        else [.orderingCompiled (SortRule.keys rules).length
          (OrderingKey.clause s.dialect (SortRule.keys rules))] := by
  rw [orderingClause]
  by_cases hnone : (SortRule.keys rules).isEmpty = true
  · simp only [if_pos hnone]
    rfl
  · simp only [if_neg hnone]
    rfl

end Settings

/-! ## Announcements -/

/-- The event that goes before a call. -/
def Call.announcement : Call → Event
  | .filter predicate => .filterApplied predicate.expression predicate.arguments.length
  | .sort clause => .orderingApplied clause
  | .page window => .pageApplied window

/-- Holds of the events that go before a call. -/
def Event.announces : Event → Bool
  | .filterApplied _ _ => true
  | .orderingApplied _ => true
  | .pageApplied _ => true
  | _ => false

theorem announced_dropped (conditions : List Condition) :
    (conditions.map Event.conditionDropped).filter Event.announces = [] := by
  rw [List.filter_map, List.map_eq_nil_iff, List.filter_eq_nil_iff]
  exact fun _ _ => nofun

namespace Settings

/-- **Announced.**  The calls that make a plan are announced among its reports, and nothing else
    is. -/
theorem announced_reports (s : Settings) (request : Request) (plan : Plan) :
    (s.reports request plan).filter Event.announces = plan.calls.map Call.announcement := by
  obtain ⟨filter, ordering, page⟩ := plan
  rw [reports, List.filter_append, List.filter_append, List.filter_append, announced_dropped]
  cases filter <;> cases ordering <;> cases page <;> rfl

/-- Nothing is announced while conditions fail to compile. -/
theorem announced_compile_of_error {s : Settings} {request : Request} {e : MalformedRange}
    (h : (s.compile request.conditions).outcome = .error e) :
    (s.compile request.conditions).events.filter Event.announces = [] := by
  obtain ⟨before, c, after, -, -, hevents⟩ := events_compile_of_error h
  rw [hevents, List.filter_append, announced_dropped]
  rfl

end Settings

end FilterPlan
