/-
  The calls that a request makes.

  1. **Calls and journals** — `Makes` holds of computations that make these calls in turn and no
     others, and come to these events and this outcome, whatever it is that the calls do.  What
     fails makes no more calls (`Makes.fail`), but those before it are made.
  2. **Replay** — on a target that is kept as state, the calls in turn are a fold (`replay`), and so
     is what has made them (`Makes.run_eq`).
  3. **Parts** — each part of a request makes one call or none.
  4. **The crux (`apply_calls`)** — the only part that can fail is the filter, while it is compiled
     and before it makes its call.  Otherwise the parts make their calls in turn.
-/
import FilterPlan.Proofs.Session.Reports

namespace FilterPlan

/-! ## Calls and journals -/

section

variable {m : Type → Type} [Monad m] [Target m] {ε α β : Type}

/-- The computation makes just these calls, and comes to these events and this outcome. -/
def Makes (x : JournaledT ε m α) (calls : List Call) (events : List Event) (outcome : Except ε α) :
    Prop :=
  x.run = (do calls.forM Call.make; return ⟨events, outcome⟩)

variable [LawfulMonad m] {calls more : List Call} {events reports : List Event}

/-- To make no calls is to have no effects. -/
theorem makes_nil_iff {x : JournaledT ε m α} {outcome : Except ε α} :
    Makes x [] events outcome ↔ x.run = pure ⟨events, outcome⟩ := by
  simp [Makes]

theorem makes_ofJournaled (x : Journaled ε α) :
    Makes (JournaledT.ofJournaled x : JournaledT ε m α) [] x.events x.outcome :=
  makes_nil_iff.2 (JournaledT.run_ofJournaled x)

theorem makes_ofExcept {x outcome : Except ε α} (h : x = outcome) :
    Makes (JournaledT.ofJournaled (Journaled.ofExcept x) : JournaledT ε m α) [] [] outcome := by
  rw [h]
  exact makes_ofJournaled _

theorem makes_pure (a : α) : Makes (pure a : JournaledT ε m α) [] [] (.ok a) :=
  makes_ofJournaled (pure a)

theorem makes_report (e : Event) :
    Makes (JournaledT.report e : JournaledT ε m Unit) [] [e] (.ok ()) :=
  makes_ofJournaled (Journaled.report e)

theorem makes_call (call : Call) :
    Makes (JournaledT.lift call.make : JournaledT ε m Unit) [call] [] (.ok ()) := by
  rw [Makes, JournaledT.run_lift]
  simp

/-- **One after the other.**  What goes on from a result makes its calls behind those before. -/
theorem Makes.bind {x : JournaledT ε m α} {f : α → JournaledT ε m β} {a : α} {outcome : Except ε β}
    (hx : Makes x calls events (.ok a)) (hf : Makes (f a) more reports outcome) :
    Makes (x >>= f) (calls ++ more) (events ++ reports) outcome := by
  rw [Makes] at hx hf
  rw [Makes, JournaledT.run_bind, hx]
  simp [hf]

theorem Makes.and {x : JournaledT ε m Unit} {y : JournaledT ε m β} {outcome : Except ε β}
    (hx : Makes x calls events (.ok ())) (hy : Makes y more reports outcome) :
    Makes (do x; y) (calls ++ more) (events ++ reports) outcome :=
  hx.bind hy

/-- **Nothing after a failure.**  The calls before it are made all the same. -/
theorem Makes.fail {x : JournaledT ε m α} {f : α → JournaledT ε m β} {e : ε}
    (hx : Makes x calls events (.error e)) : Makes (x >>= f) calls events (.error e) := by
  rw [Makes] at hx
  rw [Makes, JournaledT.run_bind, hx]
  simp

end

/-! ## Replay -/

namespace Call

variable {τ : Type} [Target (StateM τ)]

/-- The target after a call. -/
def applyTo (target : τ) (call : Call) : τ := ((call.make : StateM τ Unit).run target).2

/-- The target after the calls in turn. -/
def replay (target : τ) (calls : List Call) : τ := calls.foldl applyTo target

/-- Calls that are made in turn are replayed. -/
theorem run_forM_make (target : τ) (calls : List Call) :
    (calls.forM make : StateM τ Unit).run target = ((), replay target calls) := by
  induction calls generalizing target with
  | nil => rfl
  | cons call rest ih => exact ih (applyTo target call)

/-- Calls that are recorded come behind those before. -/
theorem replay_recorded (recorded calls : List Call) :
    replay recorded calls = recorded ++ calls := by
  induction calls generalizing recorded with
  | nil => exact (List.append_nil recorded).symm
  | cons call rest ih =>
    have hcall : call.applyTo recorded = recorded ++ [call] := by cases call <;> rfl
    show replay (call.applyTo recorded) rest = _
    rw [ih, hcall, List.append_assoc, List.singleton_append]

end Call

/-- The calls that make a plan do make it. -/
theorem Plan.replay_calls (plan : Plan) : Call.replay ({ } : Plan) plan.calls = plan := by
  obtain ⟨filter, ordering, page⟩ := plan
  cases filter <;> cases ordering <;> cases page <;> rfl

/-- **Made is replayed.**  What makes these calls takes a target to their replay. -/
theorem Makes.run_eq {τ ε α : Type} [Target (StateM τ)] {x : JournaledT ε (StateM τ) α}
    {calls : List Call} {events : List Event} {outcome : Except ε α}
    (h : Makes x calls events outcome) (target : τ) :
    x.run.run target = (⟨events, outcome⟩, Call.replay target calls) := by
  rw [Makes] at h
  rw [h, StateT.run_bind, Call.run_forM_make]
  rfl

/-! ## Parts -/

namespace Settings

section

variable {m : Type → Type} [Monad m] [LawfulMonad m] [Target m]

/-- One call, announced and made. -/
theorem makes_announced (call : Call) :
    Makes (do JournaledT.report call.announcement; JournaledT.lift call.make :
      JournaledT PlanError m Unit) [call] [call.announcement] (.ok ()) :=
  (makes_report call.announcement).and (makes_call call)

/-- A filter is one call, unless it is empty. -/
theorem filterWith_makes (p : Predicate) : Makes (filterWith p : JournaledT PlanError m Unit)
    ((if p.isEmpty then none else some p).map Call.filter).toList
    [if p.isEmpty then .filterSkipped else (Call.filter p).announcement] (.ok ()) := by
  rw [filterWith]
  by_cases hempty : p.isEmpty = true
  · rw [if_pos hempty, if_pos hempty, if_pos hempty]
    exact makes_report .filterSkipped
  · rw [if_neg hempty, if_neg hempty, if_neg hempty]
    exact makes_announced (.filter p)

/-- An ordering is one call, unless it is empty. -/
theorem sortWith_makes (clause : String) : Makes (sortWith clause : JournaledT PlanError m Unit)
    ((if clause.isEmpty then none else some clause).map Call.sort).toList
    [if clause.isEmpty then .orderingSkipped else (Call.sort clause).announcement] (.ok ()) := by
  rw [sortWith]
  by_cases hempty : clause.isEmpty = true
  · rw [if_pos hempty, if_pos hempty, if_pos hempty]
    exact makes_report .orderingSkipped
  · rw [if_neg hempty, if_neg hempty, if_neg hempty]
    exact makes_announced (.sort clause)

variable {s : Settings} {request : Request} {p : Predicate}

theorem filterBy_makes (h : (s.compile request.conditions).outcome = .ok p) :
    Makes (s.filterBy request.conditions : JournaledT PlanError m Unit)
      ((s.partsOf p request).filter.map Call.filter).toList
      ((request.dropped s.separators).map Event.conditionDropped
        ++ s.filterReports request.conditions (s.partsOf p request).filter) (.ok ()) := by
  have hevents : (request.dropped s.separators).map Event.conditionDropped
      ++ s.filterReports request.conditions (s.partsOf p request).filter
      = (s.compile request.conditions).events
        ++ [if p.isEmpty then .filterSkipped else (Call.filter p).announcement] := by
    rw [events_compile h, List.append_assoc, partsOf]
    by_cases hempty : p.isEmpty = true
    · rw [if_pos hempty, if_pos hempty, if_pos hempty]
      rfl
    · rw [if_neg hempty, if_neg hempty, if_neg hempty]
      rfl
  have hcompiled := makes_ofJournaled (m := m)
    ((s.compile request.conditions).mapError PlanError.malformedRange)
  rw [Journaled.outcome_mapError, h] at hcompiled
  rw [hevents]
  exact hcompiled.bind (filterWith_makes p)

/-- A filter that fails to compile fails before its call. -/
theorem filterBy_makes_of_error {e : MalformedRange}
    (h : (s.compile request.conditions).outcome = .error e) :
    Makes (s.filterBy request.conditions : JournaledT PlanError m Unit) []
      (s.compile request.conditions).events (.error (.malformedRange e)) := by
  have hcompiled := makes_ofJournaled (m := m)
    ((s.compile request.conditions).mapError PlanError.malformedRange)
  rw [Journaled.outcome_mapError, h] at hcompiled
  exact hcompiled.fail

theorem sortBy_makes (s : Settings) (rules : List SortRule) :
    Makes (s.sortBy rules : JournaledT PlanError m Unit) ((s.orderingOf rules).map Call.sort).toList
      (orderingReports rules (s.orderingOf rules)) (.ok ()) := by
  have hclause := makes_ofJournaled (m := m) (s.orderingClause rules)
  rw [outcome_orderingClause, events_orderingClause] at hclause
  have hall := hclause.bind (sortWith_makes _)
  rw [orderingOf]
  by_cases hnone : (SortRule.keys rules).isEmpty = true
  · have hempty : (OrderingKey.clause s.dialect (SortRule.keys rules)).isEmpty = true := by
      rw [List.isEmpty_iff.1 hnone]
      rfl
    rw [if_pos hnone, if_pos hempty, if_pos hempty] at hall
    rw [if_pos hnone]
    exact hall
  · have hne := OrderingKey.clause_ne_empty s.dialect (mt List.isEmpty_iff.2 hnone)
    have hfull := mt String.isEmpty_iff.1 hne
    rw [if_neg hnone, if_neg hfull, if_neg hfull] at hall
    rw [if_neg hnone]
    exact hall

theorem cutToAny_makes (page : Option Page) :
    Makes (cutToAny page : JournaledT PlanError m Unit)
      ((page.map Page.window).map Call.page).toList
      ((page.map Page.window).map Event.pageApplied).toList (.ok ()) := by
  cases page with
  | none => exact makes_pure ()
  | some page => exact makes_announced (.page page.window)

/-! ## Requests -/

/-- What is reported of a request that has this plan. -/
def log (s : Settings) (request : Request) (plan : Plan) : List Event :=
  s.reports request plan
    ++ [.requestApplied request.conditions.length request.sorts.length request.page.isSome]

/-- A request makes the calls of its parts, one part after the other. -/
theorem apply_makes (h : (s.compile request.conditions).outcome = .ok p) :
    Makes (s.apply request : JournaledT PlanError m Unit) (s.partsOf p request).calls
      (s.log request (s.partsOf p request)) (.ok ()) := by
  have hlast := makes_report (m := m) (ε := PlanError)
    (.requestApplied request.conditions.length request.sorts.length request.page.isSome)
  have hall := (filterBy_makes h).and ((s.sortBy_makes request.sorts).and
    ((cutToAny_makes request.page).and hlast))
  rw [List.append_nil] at hall
  rw [Plan.calls, log, reports, List.append_assoc, List.append_assoc, List.append_assoc]
  exact hall

/-- A request whose conditions fail to compile makes no call. -/
theorem apply_makes_of_error {e : MalformedRange}
    (h : (s.compile request.conditions).outcome = .error e) :
    Makes (s.apply request : JournaledT PlanError m Unit) [] (s.compile request.conditions).events
      (.error (.malformedRange e)) :=
  (filterBy_makes_of_error h).fail

end

variable {s : Settings} {request : Request}

/-- The plan of a request is what it asks for. -/
theorem plan_eq {p : Predicate} (h : (s.compile request.conditions).outcome = .ok p) :
    s.plan request = ⟨s.log request (s.partsOf p request), .ok (s.partsOf p request)⟩ := by
  rw [plan, (apply_makes h).run_eq, Plan.replay_calls]
  rfl

theorem plan_eq_of_error {e : MalformedRange}
    (h : (s.compile request.conditions).outcome = .error e) :
    s.plan request = ⟨(s.compile request.conditions).events, .error (.malformedRange e)⟩ := by
  rw [plan, (apply_makes_of_error h).run_eq]
  rfl

/-- Just the calls of its plan are announced in the log of a request. -/
theorem announced_log (s : Settings) (request : Request) (plan : Plan) :
    (s.log request plan).filter Event.announces = plan.calls.map Call.announcement := by
  rw [log, List.filter_append, announced_reports]
  exact List.append_nil _

/-- **Only what is asked for, once and in order.**  A request whose conditions fail to compile fails
    in the same way on every target, and it makes no call there: it is a computation without
    effects, and a target that records its calls is left as it was.  Any other request has a plan,
    and on every target it makes the calls of that plan and has no other effects.  They are
    announced, and they are: the filter, if a condition says something, with a text that is not
    empty and the arguments of that text; the ordering, if a rule is active, with a clause that is
    not empty; the page, if there is one.  Where no condition says anything, what is compiled has
    neither a text nor arguments. -/
theorem apply_calls (s : Settings) (request : Request) :
    (∃ e, (s.compile request.conditions).outcome = .error e ∧
      (s.compile request.conditions).events.filter Event.announces = [] ∧
      (∀ {m : Type → Type} [Monad m] [LawfulMonad m] [Target m],
        (s.apply request : JournaledT PlanError m Unit).run
          = pure ⟨(s.compile request.conditions).events, .error (.malformedRange e)⟩) ∧
      ∀ recorded : List Call,
        (s.apply request : JournaledT PlanError (StateM (List Call)) Unit).run.run recorded
          = (⟨(s.compile request.conditions).events, .error (.malformedRange e)⟩, recorded)) ∨
    ∃ p plan events, (s.compile request.conditions).outcome = .ok p ∧
      s.plan request = ⟨events, .ok plan⟩ ∧
      (plan.filter.isSome ↔
        ∃ c ∈ request.conditions, ∃ f, c.formula? s.separators = .ok (some f)) ∧
      (∀ q ∈ plan.filter, q = p ∧ q.expression ≠ "" ∧
        ∃ f, (s.separators.formula? request.conditions).outcome = .ok (some f) ∧
          q = f.predicate s.dialect ∧
          q.arguments = f.atoms.filterMap (Atom.argument? s.dialect)) ∧
      (plan.filter = none → p.expression = "" ∧ p.arguments = []) ∧
      (plan.ordering.isSome ↔ ∃ rule ∈ request.sorts, rule.direction ≠ .unsorted) ∧
      (∀ clause ∈ plan.ordering, clause ≠ "" ∧
        clause = OrderingKey.clause s.dialect (SortRule.keys request.sorts)) ∧
      plan.page = request.page.map Page.window ∧
      events.filter Event.announces = plan.calls.map Call.announcement ∧
      (∀ {m : Type → Type} [Monad m] [LawfulMonad m] [Target m],
        (s.apply request : JournaledT PlanError m Unit).run
          = (do plan.calls.forM Call.make; return ⟨events, .ok ()⟩)) ∧
      ∀ recorded : List Call,
        (s.apply request : JournaledT PlanError (StateM (List Call)) Unit).run.run recorded
          = (⟨events, .ok ()⟩, recorded ++ plan.calls) := by
  cases hcompile : (s.compile request.conditions).outcome with
  | error e =>
    exact .inl ⟨e, rfl, announced_compile_of_error hcompile,
      fun {m} _ _ _ => makes_nil_iff.1 (apply_makes_of_error hcompile),
      (apply_makes_of_error hcompile).run_eq⟩
  | ok p =>
    obtain ⟨hfiltered, hfilter, hnothing⟩ := filter_partsOf hcompile
    obtain ⟨hactive, hordering⟩ := s.ordering_partsOf p request
    refine .inr ⟨p, s.partsOf p request, _, rfl, plan_eq hcompile, hfiltered, hfilter, hnothing,
      hactive, hordering, rfl, s.announced_log request _, fun {m} _ _ _ => apply_makes hcompile,
      fun recorded => ?_⟩
    rw [(apply_makes hcompile).run_eq, Call.replay_recorded]

/-- A malformed range leaves a list of calls alone, although there are also a rule and a page. -/
theorem apply_calls_unmade :
    let request : Request := ⟨[⟨"a", "1", .between, true⟩], [⟨"b", 0, .ascending⟩], some ⟨2, 10⟩⟩
    let e : MalformedRange := ⟨"a", "1", 1⟩
    (({ } : Settings).apply request : JournaledT PlanError (StateM (List Call)) Unit).run.run
      [.sort "c"] = (⟨[.malformedRange e], .error (.malformedRange e)⟩, [.sort "c"]) := by
  intro request e
  have hcompile : ({ } : Settings).compile request.conditions
      = ⟨[.malformedRange e], .error e⟩ := rfl
  rcases apply_calls { } request with ⟨e', he', -, -, hrecorded⟩ | ⟨p, plan, events, hp, -⟩
  · rw [hcompile] at he' hrecorded
    obtain rfl := Except.error.inj he'
    exact hrecorded [.sort "c"]
  · rw [hcompile] at hp
    cases hp

example : ((({ } : Settings).apply ⟨[⟨"a", "1", .equal, true⟩], [⟨"b", 0, .ascending⟩],
    some ⟨2, 10⟩⟩ : JournaledT PlanError (StateM (List Call)) Unit).run.run [.sort "c"]).2
    = [.sort "c", .filter ⟨"(a == @0)", ["1"]⟩, .sort "b asc", .page ⟨10, 10⟩] := by cbv

end Settings

end FilterPlan
