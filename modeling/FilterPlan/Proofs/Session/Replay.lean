/-
  Sessions on plans are sessions on call lists, replayed.

  1. **Plans** — of the calls that are replayed on a plan, the last one of each kind is what is left
     (`replay_plan`).
  2. **Steps** — a step fails and leaves the session as it was, or it resets the target, or it makes
     calls; which of these it does is the same on every target (`take_cases`).
  3. **The crux (`take_replayed`)** — a call list knows everything: a step on any target is the
     replay of the step that only records, and so is a run.
-/
import Mathlib.Data.List.Induction
import FilterPlan.Session
import FilterPlan.Proofs.Session.Calls

namespace FilterPlan

/-! ## Plans -/

namespace Call

theorem replay_append {τ : Type} [Target (StateM τ)] (target : τ) (calls more : List Call) :
    replay target (calls ++ more) = replay (replay target calls) more :=
  List.foldl_append

/-- The filter that a call brings. -/
def filter? : Call → Option Predicate
  | .filter predicate => some predicate
  | _ => none

/-- The ordering clause that a call brings. -/
def clause? : Call → Option String
  | .sort clause => some clause
  | _ => none

/-- The window that a call brings. -/
def window? : Call → Option Window
  | .page window => some window
  | _ => none

/-- **The last of each kind.**  A plan holds what the last call of each kind brought, and nothing
    where there was no such call. -/
theorem replay_plan (calls : List Call) :
    replay ({ } : Plan) calls = ⟨(calls.filterMap filter?).getLast?,
      (calls.filterMap clause?).getLast?, (calls.filterMap window?).getLast?⟩ := by
  -- from the back: the last call overwrites its own part and leaves the others
  induction calls using List.reverseRecOn with
  | nil => rfl
  | append_singleton calls call ih =>
    rw [replay_append, ih]
    cases call with
    | filter predicate =>
      show Plan.mk (some predicate) _ _ = _
      simp [filter?, clause?, window?]
    | sort clause =>
      show Plan.mk _ (some clause) _ = _
      simp [filter?, clause?, window?]
    | page window =>
      show Plan.mk _ _ (some window) = _
      simp [filter?, clause?, window?]

end Call

/-! ## Steps -/

namespace Session

/-- A step that makes calls takes the target to their replay. -/
theorem take_of_makes {τ : Type} [Target (StateM τ)] {fresh target : τ}
    {settings after : Settings} (step : Step) {calls : List Call} {events : List Event}
    {outcome : Except PlanError Unit} (hsettings : step.reconfigure settings = .ok after)
    (h : Makes (step.perform fresh settings) calls events outcome) :
    take fresh ⟨settings, target⟩ step = (outcome, ⟨after, Call.replay target calls⟩) := by
  rw [take, hsettings]
  dsimp only
  rw [h.run_eq]

/-- A step that fails before it makes a call leaves the target alone. -/
theorem take_of_makes_nil {τ : Type} [Target (StateM τ)] {fresh target : τ} {settings : Settings}
    (step : Step) {events : List Event} {e : PlanError}
    (hsettings : step.reconfigure settings = .ok settings)
    (h : Makes (step.perform fresh settings) [] events (.error e)) :
    take fresh ⟨settings, target⟩ step = (.error e, ⟨settings, target⟩) :=
  take_of_makes step hsettings h

/-- **What a step does.**  It fails and the session stays as it is, or the target is reset, or calls
    are made and other settings may come into force.  Only the settings decide that. -/
theorem take_cases (settings : Settings) (step : Step) :
    (∃ e, ∀ {τ : Type} [Target (StateM τ)] (fresh target : τ),
      take fresh ⟨settings, target⟩ step = (.error e, ⟨settings, target⟩)) ∨
    (∀ {τ : Type} [Target (StateM τ)] (fresh target : τ),
      take fresh ⟨settings, target⟩ step = (.ok (), ⟨settings, fresh⟩)) ∨
    ∃ after calls, ∀ {τ : Type} [Target (StateM τ)] (fresh target : τ),
      take fresh ⟨settings, target⟩ step = (.ok (), ⟨after, Call.replay target calls⟩) := by
  cases step with
  | configure text =>
    cases htext : Settings.ofText text with
    | error e =>
      refine .inl ⟨e, fun fresh target => ?_⟩
      rw [take, Step.reconfigure, htext]
    | ok after =>
      exact .inr (.inr ⟨after, [], fun _ _ =>
        take_of_makes (.configure text) htext (makes_pure ())⟩)
  | filter conditions =>
    obtain ⟨request, rfl⟩ : ∃ request : Request, request.conditions = conditions :=
      ⟨⟨conditions, [], none⟩, rfl⟩
    cases hcompile : (settings.compile request.conditions).outcome with
    | error e =>
      exact .inl ⟨_, fun _ _ => take_of_makes_nil (.filter _) rfl
        (Settings.filterBy_makes_of_error hcompile)⟩
    | ok p =>
      exact .inr (.inr ⟨_, _, fun _ _ => take_of_makes (.filter _) rfl
        (Settings.filterBy_makes hcompile)⟩)
  | sort rules =>
    exact .inr (.inr ⟨_, _, fun _ _ => take_of_makes (.sort rules) rfl
      (settings.sortBy_makes rules)⟩)
  | page page =>
    exact .inr (.inr ⟨_, _, fun _ _ => take_of_makes (.page page) rfl
      (Settings.makes_announced (.page page.window))⟩)
  | apply text =>
    cases hread : Request.ofText text with
    | error e =>
      exact .inl ⟨_, fun _ _ => take_of_makes_nil (.apply text) rfl
        (makes_ofExcept hread).fail⟩
    | ok request =>
      cases hcompile : (settings.compile request.conditions).outcome with
      | error e =>
        exact .inl ⟨_, fun _ _ => take_of_makes_nil (.apply text) rfl
          ((makes_ofExcept hread).bind (Settings.apply_makes_of_error hcompile))⟩
      | ok p =>
        exact .inr (.inr ⟨_, _, fun _ _ => take_of_makes (.apply text) rfl
          ((makes_ofExcept hread).bind (Settings.apply_makes hcompile))⟩)
  | reset => exact .inr (.inl fun _ _ => rfl)

section

variable {τ : Type} [Target (StateM τ)] {fresh : τ} {s : Session τ} {step : Step}

/-- **All or nothing.**  A step that fails leaves the session as it was. -/
theorem take_of_error {e : PlanError} (h : (s.take fresh step).1 = .error e) :
    (s.take fresh step).2 = s := by
  rcases take_cases s.settings step with ⟨e', hfails⟩ | hreset | ⟨after, calls, hmakes⟩
  · exact congrArg Prod.snd (hfails fresh s.target)
  · cases h.symm.trans (congrArg Prod.fst (hreset fresh s.target))
  · cases h.symm.trans (congrArg Prod.fst (hmakes fresh s.target))

/-- A run goes on from a failed step as though it had not been taken. -/
theorem run_of_error {e : PlanError} (h : (s.take fresh step).1 = .error e) (rest : List Step) :
    s.run fresh (step :: rest) = (.error e, s) :: s.run fresh rest := by
  have htake : s.take fresh step = (.error e, s) := Prod.ext h (take_of_error h)
  rw [run, next, htake]

/-- A request that was read and failed reported the compiling of its filter and no more. -/
theorem events_of_take_error {text : String} {request : Request} {e : PlanError}
    (h : (s.take fresh (.apply text)).1 = .error e) (hread : Request.ofText text = .ok request) :
    ((s.settings.apply request : JournaledT PlanError (StateM τ) Unit).run.run s.target).1.events
      = (s.settings.compile request.conditions).events := by
  cases hcompile : (s.settings.compile request.conditions).outcome with
  | error e' => rw [(Settings.apply_makes_of_error hcompile).run_eq]
  | ok p =>
    have htake : s.take fresh (.apply text) = _ :=
      take_of_makes (.apply text) rfl ((makes_ofExcept hread).bind (Settings.apply_makes hcompile))
    cases h.symm.trans (congrArg Prod.fst htake)

/-! ## Runs -/

/-- The session with its target replaced. -/
def map {σ : Type} (f : τ → σ) (s : Session τ) : Session σ := ⟨s.settings, f s.target⟩

/-- **Call lists know everything.**  A step on any target is the replay of the step that only
    records, and it fails where that one fails. -/
theorem take_replayed (fresh : τ) (s : Session (List Call)) (step : Step) :
    (s.map (Call.replay fresh)).take fresh step
      = Prod.map id (map (Call.replay fresh)) (s.take [] step) := by
  obtain ⟨settings, recorded⟩ := s
  show take fresh ⟨settings, Call.replay fresh recorded⟩ step = _
  rcases take_cases settings step with ⟨e, hfails⟩ | hreset | ⟨after, calls, hmakes⟩
  · rw [hfails, hfails]
    rfl
  · rw [hreset, hreset]
    rfl
  · rw [hmakes, hmakes, ← Call.replay_append, Call.replay_recorded]
    rfl

theorem next_replayed (fresh : τ) (s : Session (List Call)) (step : Step) :
    (s.map (Call.replay fresh)).next fresh step = (s.next [] step).map (Call.replay fresh) :=
  congrArg Prod.snd (take_replayed fresh s step)

/-- The sessions of a run, step by step. -/
theorem run_replayed (fresh : τ) (s : Session (List Call)) (steps : List Step) :
    (s.map (Call.replay fresh)).run fresh steps
      = (s.run [] steps).map (Prod.map id (map (Call.replay fresh))) := by
  induction steps generalizing s with
  | nil => rfl
  | cons step rest ih => rw [run, run, List.map_cons, take_replayed, next_replayed, ih]

theorem final_replayed (fresh : τ) (s : Session (List Call)) (steps : List Step) :
    (s.map (Call.replay fresh)).final fresh steps = (s.final [] steps).map (Call.replay fresh) := by
  induction steps generalizing s with
  | nil => rfl
  | cons step rest ih =>
    rw [final, final, List.foldl_cons, List.foldl_cons, ← final, ← final, next_replayed, ih]

end

/-- **Plans refine call lists.**  Whatever the settings and the steps, a session on a plan and one
    on a call list go the same way.  After each step the plan is the replay of the calls since the
    last reset, which is the last call of each kind, and the settings are the same.  Any further
    step fails on one just where it fails on the other, with the same error; it leaves both sessions
    as they were, and a request that fails has reported nothing but the compiling of its filter. -/
theorem plan_refines_calls (settings : Settings) (steps : List Step) :
    let plan := final ({ } : Plan) ⟨settings, { }⟩ steps
    let calls := final ([] : List Call) ⟨settings, []⟩ steps
    run ({ } : Plan) ⟨settings, { }⟩ steps
      = (run ([] : List Call) ⟨settings, []⟩ steps).map (Prod.map id (map (Call.replay { }))) ∧
    plan.settings = calls.settings ∧ plan.target = Call.replay { } calls.target ∧
    plan.target = ⟨(calls.target.filterMap Call.filter?).getLast?,
      (calls.target.filterMap Call.clause?).getLast?,
      (calls.target.filterMap Call.window?).getLast?⟩ ∧
    ∀ step e, ((plan.take { } step).1 = .error e ↔ (calls.take [] step).1 = .error e) ∧
      ((plan.take { } step).1 = .error e →
        (plan.take { } step).2 = plan ∧ (calls.take [] step).2 = calls ∧
        ∀ rest, plan.run { } (step :: rest) = (.error e, plan) :: plan.run { } rest ∧
          calls.run [] (step :: rest) = (.error e, calls) :: calls.run [] rest) ∧
      ((plan.take { } step).1 = .error e → ∀ text request, step = .apply text →
        Request.ofText text = .ok request →
        ((plan.settings.apply request : JournaledT PlanError (StateM Plan) Unit).run.run
          plan.target).1.events = (plan.settings.compile request.conditions).events ∧
        ((calls.settings.apply request : JournaledT PlanError (StateM (List Call)) Unit).run.run
          calls.target).1.events = (calls.settings.compile request.conditions).events) := by
  intro plan calls
  have hplan : plan = calls.map (Call.replay { }) := final_replayed ({ } : Plan) ⟨settings, []⟩ steps
  have htake (step : Step) : (plan.take { } step).1 = (calls.take [] step).1 := by
    rw [hplan, take_replayed]
    rfl
  refine ⟨run_replayed ({ } : Plan) ⟨settings, []⟩ steps, by rw [hplan]; rfl,
    by rw [hplan]; rfl, ?_, ?_⟩
  · rw [hplan]
    exact Call.replay_plan calls.target
  · intro step e
    refine ⟨by rw [htake], fun h => ?_, ?_⟩
    · have h' := (htake step).symm.trans h
      exact ⟨take_of_error h, take_of_error h',
        fun rest => ⟨run_of_error h rest, run_of_error h' rest⟩⟩
    · rintro h text request rfl hread
      exact ⟨events_of_take_error h hread,
        events_of_take_error ((htake _).symm.trans h) hread⟩

end Session

end FilterPlan
