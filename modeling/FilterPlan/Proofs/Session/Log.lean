/-
  What is reported while a plan is made.

  1. **Events** — what an event tells under a name, and whether it ends a log (`Concludes`).
  2. **Reports** — the reports of a request are told apart by their words, so those of one kind are
     found among them by these.
  3. **The crux (`planOfTexts_log`)** — so the log and the plan agree: a warning and a report of the
     whole request exclude each other, either one comes last, and what the events before it tell is
     what is found in the plan.
-/
import FilterPlan.Proofs.Condition.MalformedRange
import FilterPlan.Proofs.Session.Calls
import FilterPlan.Wire.Plan

namespace FilterPlan

/-! ## Events -/

namespace Event

/-- What the event tells under a name. -/
def tells (ev : Event) (name : String) : Option Json := ev.fields.lookup name

/-- The event ends the log, in which no other one is above the level of debugging. -/
def Concludes (last : Event) (log : List Event) : Prop :=
  ∃ before, log = before ++ [last] ∧ ∀ ev ∈ before, ev.level = .trace ∨ ev.level = .debug

theorem Concludes.exists_warn_iff {last : Event} {log : List Event} (h : last.Concludes log) :
    (∃ ev ∈ log, ev.level = .warn) ↔ last.level = .warn := by
  obtain ⟨before, rfl, hbefore⟩ := h
  constructor
  · rintro ⟨ev, hev, hwarn⟩
    rcases List.mem_append.1 hev with hev | hev
    · rcases hbefore ev hev with hlow | hlow
      · rw [hlow] at hwarn; cases hwarn
      · rw [hlow] at hwarn; cases hwarn
    · rw [← List.mem_singleton.1 hev]
      exact hwarn
  · intro hwarn
    exact ⟨last, List.mem_append_right before (List.mem_singleton_self last), hwarn⟩

/-- Calls are announced in these words. -/
theorem announces_eq : announces = fun ev =>
    decide (ev.message ∈ ["Applying filter", "Applying ordering", "Applying page"]) := by
  funext ev
  cases ev <;> simp [announces, message]

end Event

/-! ## Reports -/

namespace Settings

variable (s : Settings) (request : Request) (plan : Plan)

theorem level_filterReports (conditions : List Condition) (filter : Option Predicate) :
    ∀ ev ∈ s.filterReports conditions filter, ev.level = .debug := by
  cases filter with
  | none => simp [filterReports, Event.level]
  | some p => simp [filterReports, Event.level]

theorem level_orderingReports (rules : List SortRule) (ordering : Option String) :
    ∀ ev ∈ orderingReports rules ordering, ev.level = .debug := by
  cases ordering with
  | none => simp [orderingReports, Event.level]
  | some clause => simp [orderingReports, Event.level]

/-- Nothing that is reported before the end is above the level of debugging. -/
theorem level_reports : ∀ ev ∈ s.reports request plan, ev.level = .trace ∨ ev.level = .debug := by
  intro ev hev
  rw [reports, List.mem_append, List.mem_append, List.mem_append] at hev
  rcases hev with ((hev | hev) | hev) | hev
  · obtain ⟨c, -, rfl⟩ := List.mem_map.1 hev
    exact .inl rfl
  · exact .inr (s.level_filterReports _ _ ev hev)
  · exact .inr (level_orderingReports _ _ ev hev)
  · obtain ⟨window, -, rfl⟩ := Option.map_eq_some_iff.1 (Option.mem_toList.1 hev)
    exact .inr rfl

/-- In other words than those for orderings and pages, only conditions and filters are reported. -/
theorem filter_reports {message : String} (h : message ∉ ["No active sorts, ordering skipped",
      "Compiled ordering clause", "Applying ordering", "Applying page"]) :
    (s.reports request plan).filter (·.message = message)
      = ((request.dropped s.separators).map Event.conditionDropped).filter (·.message = message)
        ++ (s.filterReports request.conditions plan.filter).filter (·.message = message) := by
  simp only [List.mem_cons, List.not_mem_nil, or_false, not_or] at h
  obtain ⟨hskipped, hcompiled, hordered, hpaged⟩ := h
  have hordering : (orderingReports request.sorts plan.ordering).filter
      (·.message = message) = [] := by
    cases plan.ordering with
    | none => simp [orderingReports, Event.message, Ne.symm hskipped]
    | some clause =>
      simp [orderingReports, Event.message, Ne.symm hcompiled, Ne.symm hordered]
  have hpage : (plan.page.map Event.pageApplied).toList.filter (·.message = message) = [] := by
    cases plan.page with
    | none => rfl
    | some window => simp [Event.message, Ne.symm hpaged]
  rw [reports, List.filter_append, List.filter_append, List.filter_append, hordering, hpage,
    List.append_nil, List.append_nil]

/-- Dropped conditions are reported as such, and nothing else is. -/
theorem filter_reports_dropped :
    (s.reports request plan).filter (·.message = "Condition dropped")
      = (request.dropped s.separators).map Event.conditionDropped := by
  have hfilter : (s.filterReports request.conditions plan.filter).filter
      (·.message = "Condition dropped") = [] := by
    cases plan.filter <;> simp [filterReports, Event.message]
  rw [filter_reports _ _ _ (by simp), hfilter, List.append_nil]
  exact List.filter_eq_self.2 (by simp [Event.message])

/-- The filter's reports, when it is compiled and when it is applied, count its arguments. -/
theorem arguments_reports {message : String}
    (h : message = "Compiled filter predicate" ∨ message = "Applying filter") :
    ((s.reports request plan).filter (·.message = message)).map (·.tells "arguments")
      = plan.filter.toList.map fun p => some (.nat p.arguments.length) := by
  have hdropped : ((request.dropped s.separators).map Event.conditionDropped).filter
      (·.message = message) = [] := by
    rcases h with rfl | rfl <;> simp [Event.message]
  rw [filter_reports _ _ _ (by rcases h with rfl | rfl <;> simp), hdropped, List.nil_append]
  cases plan.filter with
  | none => rcases h with rfl | rfl <;> simp [filterReports, Event.message]
  | some p =>
    rcases h with rfl | rfl
    · have hcompiled : (s.filterReports request.conditions (some p)).filter
          (·.message = "Compiled filter predicate")
          = [.filterCompiled request.conditions.length p.arguments.length s.dialect] := by
        simp [filterReports, Event.message]
      rw [hcompiled]
      rfl
    · have happlied : (s.filterReports request.conditions (some p)).filter
          (·.message = "Applying filter")
          = [.filterApplied p.expression p.arguments.length] := by
        simp [filterReports, Event.message]
      rw [happlied]
      rfl

end Settings

/-! ## What the log tells -/

/-- What a log tells of a malformed range: it ends with a warning, with the value and with how many
    values are packed there. -/
structure MalformedRange.IsTold (m : MalformedRange) (s : Separators) (log : List Event) :
    Prop where
  concluded : ∃ last : Event, last.Concludes log ∧ last.level = .warn ∧
    last.tells "value" = some (.text m.value) ∧
    ∃ bounds, s.Packs m.value bounds ∧ last.tells "bounds" = some (.nat bounds.length) ∧
      bounds.length ≠ 2

/-- What a log tells of a plan. -/
structure Plan.IsTold (plan : Plan) (s : Settings) (request : Request) (log : List Event) :
    Prop where
  /-- At the end the request is reported. -/
  concluded : ∃ last : Event, last.Concludes log ∧ last.level = .info
  /-- The conditions that say nothing are reported in their order. -/
  dropped : log.filter (·.message = "Condition dropped")
    = (request.dropped s.separators).map Event.conditionDropped
  /-- They and the terms of the filter are as many as the conditions that name a field. -/
  kept : ∃ terms,
    (s.separators.formula? request.conditions).outcome = .ok (Formula.grouped? .and terms) ∧
    plan.filter = (Formula.grouped? .and terms).map (Formula.predicate s.dialect) ∧
    (log.filter (·.message = "Condition dropped")).length + terms.length = request.named.length
  /-- The arguments of the filter are counted when it is compiled and when it is applied. -/
  arguments : ∀ message ∈ ["Compiled filter predicate", "Applying filter"],
    (log.filter (·.message = message)).map (·.tells "arguments")
      = plan.filter.toList.map fun p => some (.nat p.arguments.length)
  /-- The calls that make the plan are announced, and no others. -/
  announced :
    log.filter (·.message ∈ ["Applying filter", "Applying ordering", "Applying page"])
      = plan.calls.map Call.announcement

namespace Settings

/-- A request that fails has its malformed range told. -/
theorem isTold_of_error {s : Settings} {request : Request} {m : MalformedRange}
    (h : (s.compile request.conditions).outcome = .error m) :
    (s.plan request).outcome = .error (.malformedRange m) ∧
      m.IsTold s.separators (s.plan request).events := by
  obtain ⟨before, c, after, -, hc, hcompiled⟩ := events_compile_of_error h
  obtain ⟨-, -, -, -, packs, count⟩ := Condition.formula?_eq_error_iff.1 hc
  rw [plan_eq_of_error h]
  refine ⟨rfl, ⟨⟨.malformedRange _, ⟨_, hcompiled, ?_⟩, rfl, rfl, _, packs, rfl, count⟩⟩⟩
  intro ev hev
  obtain ⟨c, -, rfl⟩ := List.mem_map.1 hev
  exact .inl rfl

/-- Any other request has its plan told. -/
theorem isTold_of_ok {s : Settings} {request : Request} {p : Predicate}
    (h : (s.compile request.conditions).outcome = .ok p) :
    (s.plan request).outcome = .ok (s.partsOf p request) ∧
      (s.partsOf p request).IsTold s request (s.plan request).events := by
  obtain ⟨terms, hterms, hp, hempty⟩ := exists_terms_of_compile h
  have hnamed := (request.outcome_terms_named s.separators).trans hterms
  rw [plan_eq h]
  have hdropped : (s.log request (s.partsOf p request)).filter (·.message = "Condition dropped")
      = (request.dropped s.separators).map Event.conditionDropped := by
    rw [log, List.filter_append, filter_reports_dropped]
    simp [Event.message]
  refine ⟨rfl, ⟨?_, hdropped, ⟨terms, ?_, ?_, ?_⟩, ?_, ?_⟩⟩
  · exact ⟨_, ⟨_, rfl, s.level_reports request _⟩, rfl⟩
  · rw [Separators.outcome_formula?_terms, hterms]
    rfl
  · rw [partsOf, hempty, hp]
    cases terms with
    | nil => rfl
    | cons term rest => rfl
  · rw [hdropped, List.length_map]
    exact (Separators.events_terms hnamed).2
  · intro message hmessage
    have hwords := List.mem_pair.1 hmessage
    rw [log, List.filter_append, List.map_append, arguments_reports _ _ _ hwords]
    rcases hwords with rfl | rfl <;> simp [Event.message]
  · rw [← announced_log, Event.announces_eq]

end Settings

/-! ## Plans of texts -/

/-- Settings that are refused are not refused for a range. -/
theorem Settings.ofGiven_ne_malformedRange (given : Option String) (m : MalformedRange) :
    Settings.ofGiven given ≠ .error (.malformedRange m) := by
  cases given with
  | none => exact nofun
  | some text =>
    rw [ofGiven, ofText]
    cases (Json.read? text).bind ofJson? with
    | none => exact nofun
    | some s =>
      show (s.separators.validate.map _).mapError PlanError.vocabulary ≠ _
      cases s.separators.validate <;> exact nofun

/-- Neither is a request. -/
theorem Request.ofText_ne_malformedRange (text : String) (m : MalformedRange) :
    Request.ofText text ≠ .error (.malformedRange m) := by
  rw [ofText]
  cases (Json.read? text).bind RequestEntry.ofJson? with
  | none => exact nofun
  | some entry =>
    show entry.resolve.mapError PlanError.vocabulary ≠ _
    cases entry.resolve <;> exact nofun

/-- A text that is refused ends it before anything is reported, and never for a range. -/
theorem planOfTexts_of_refused {given : Option String} {text : String} {e : PlanError}
    (h : Settings.ofGiven given = .error e ∨
      (∃ s, Settings.ofGiven given = .ok s) ∧ Request.ofText text = .error e) :
    planOfTexts given text = ⟨[], .error e⟩ ∧ ∀ m, e ≠ .malformedRange m := by
  rcases h with hs | ⟨⟨s, hs⟩, hrequest⟩
  · constructor
    · rw [planOfTexts, hs]
      rfl
    · rintro m rfl
      exact Settings.ofGiven_ne_malformedRange given m hs
  · constructor
    · rw [planOfTexts, hs, hrequest]
      rfl
    · rintro m rfl
      exact Request.ofText_ne_malformedRange text m hrequest

/-- **The log tells the truth about the plan.**  A warning is reported just where a malformed range
    is why there is no plan.  Of texts that are refused nothing is reported.  Otherwise either the
    malformed range is told or the plan is: the last event is the only one above the level of
    debugging, and what is dropped, counted and announced before it is what is found in the plan. -/
theorem planOfTexts_log (given : Option String) (text : String) :
    let made := planOfTexts given text
    ((∃ ev ∈ made.events, ev.level = .warn) ↔ ∃ m, made.outcome = .error (.malformedRange m)) ∧
    ((∃ e, (Settings.ofGiven given = .error e ∨
        (∃ s, Settings.ofGiven given = .ok s) ∧ Request.ofText text = .error e) ∧
      made.outcome = .error e ∧ made.events = []) ∨
    ∃ s request, Settings.ofGiven given = .ok s ∧ Request.ofText text = .ok request ∧
      ((∃ m, made.outcome = .error (.malformedRange m) ∧ m.IsTold s.separators made.events) ∨
        ∃ plan, made.outcome = .ok plan ∧ plan.IsTold s request made.events)) := by
  intro made
  by_cases hrefused : ∃ e, Settings.ofGiven given = .error e ∨
      (∃ s, Settings.ofGiven given = .ok s) ∧ Request.ofText text = .error e
  · -- nothing is reported, and nothing is compiled that could be malformed
    obtain ⟨e, hrefused⟩ := hrefused
    obtain ⟨hmade, hne⟩ := planOfTexts_of_refused hrefused
    have hmade : made = ⟨[], .error e⟩ := hmade
    refine ⟨?_, .inl ⟨e, hrefused, by rw [hmade], by rw [hmade]⟩⟩
    rw [hmade]
    constructor
    · rintro ⟨ev, hev, -⟩
      cases hev
    · rintro ⟨m, hm⟩
      exact absurd (Except.error.inj hm) (hne m)
  · cases hs : Settings.ofGiven given with
    | error e => exact absurd ⟨e, .inl hs⟩ hrefused
    | ok s =>
      cases hrequest : Request.ofText text with
      | error e => exact absurd ⟨e, .inr ⟨⟨s, hs⟩, hrequest⟩⟩ hrefused
      | ok request =>
        have hmade : made = s.plan request := by
          show planOfTexts given text = _
          rw [planOfTexts, hs, hrequest]
          rfl
        rw [hmade]
        cases hcompile : (s.compile request.conditions).outcome with
        | error m =>
          obtain ⟨hfails, told⟩ := Settings.isTold_of_error hcompile
          obtain ⟨last, concludes, hwarn, -⟩ := told.concluded
          rw [concludes.exists_warn_iff]
          exact ⟨⟨fun _ => ⟨m, hfails⟩, fun _ => hwarn⟩,
            .inr ⟨s, request, rfl, rfl, .inl ⟨m, hfails, told⟩⟩⟩
        | ok p =>
          obtain ⟨hplan, told⟩ := Settings.isTold_of_ok hcompile
          obtain ⟨last, concludes, hinfo⟩ := told.concluded
          rw [concludes.exists_warn_iff, hinfo, hplan]
          exact ⟨⟨nofun, nofun⟩, .inr ⟨s, request, rfl, rfl, .inr ⟨_, rfl, told⟩⟩⟩

end FilterPlan
