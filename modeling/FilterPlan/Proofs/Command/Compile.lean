/-
  Compiling on the command line, all or nothing.

  1. **Decisions** — a result is decided by some stages if it is the first failure of these, or a
     value where all of them pass.  Decisions follow one another (`Decides.bind`), and so what a
     compilation comes to is decided by all the stages in order (`decides_planned`).
  2. **Runs** — reading leaves the files as they are, so all that happens to them happens in the
     last step (`run_planned`).
  3. **The crux (`run_compile`)** — that step is taken only where no stage failed.  So a failure
     leaves everything as it was, and otherwise the plan is on standard output or in one file.
-/
import FilterPlan.Proofs.Command.FileSystem
import FilterPlan.Proofs.Command.Stages
import FilterPlan.Proofs.Json.Writing
import FilterPlan.Proofs.Session.Calls
import FilterPlan.Proofs.Session.InForce
import FilterPlan.Proofs.Wire.Plans

namespace FilterPlan.Command

/-! ## Decisions -/

section

variable {α β : Type}

/-- The stages decide the result: it is the first failure among them, or all of them pass and it
    is one of these values. -/
inductive Decides (read : String → Option String) (o : CompileOptions) (stages : List Stage)
    (Gives : α → Prop) : Except Failure α → Prop
  | failure {e : Failure} (h : FirstFailure (Stage.Fails read o) stages e) :
    Decides read o stages Gives (.error e)
  | success {a : α} (passed : ∀ stage ∈ stages, Stage.Passes read o stage) (ha : Gives a) :
    Decides read o stages Gives (.ok a)

variable {read : String → Option String} {o : CompileOptions}

/-- The first stage fails. -/
theorem Decides.here {stage : Stage} {rest : List Stage} {e : Failure} {Gives : α → Prop}
    (h : Stage.Fails read o stage e) : Decides read o (stage :: rest) Gives (.error e) :=
  .failure (firstFailure_cons.2 (.inl h))

/-- The first stage passes, and the others decide. -/
theorem Decides.behind {stage : Stage} {rest : List Stage} {r : Except Failure α}
    {Gives : α → Prop} (hpasses : Stage.Passes read o stage) (h : Decides read o rest Gives r) :
    Decides read o (stage :: rest) Gives r := by
  cases h with
  | failure h => exact .failure (firstFailure_cons.2 (.inr ⟨hpasses, h⟩))
  | success hrest ha => exact .success (List.forall_mem_cons.2 ⟨hpasses, hrest⟩) ha

/-- There is no stage left. -/
theorem Decides.done {a : α} {Gives : α → Prop} (ha : Gives a) :
    Decides read o [] Gives (.ok a) :=
  .success (List.forall_mem_nil _) ha

/-- **One after the other.**  Stages that decide what goes on come behind those before. -/
theorem Decides.bind {xs ys : List Stage} {r : Except Failure α} {f : α → Except Failure β}
    {Gives : α → Prop} {Gives' : β → Prop} (h : Decides read o xs Gives r)
    (hf : ∀ a, Gives a → Decides read o ys Gives' (f a)) :
    Decides read o (xs ++ ys) Gives' (r >>= f) := by
  cases h with
  | failure h => exact .failure (firstFailure_append.2 (.inl h))
  | @success a hxs ha =>
    have hrest := hf a ha
    show Decides read o (xs ++ ys) Gives' (f a)
    generalize f a = next at hrest ⊢
    cases hrest with
    | failure h => exact .failure (firstFailure_append.2 (.inr ⟨hxs, h⟩))
    | success hys hb => exact .success (List.forall_mem_append.2 ⟨hxs, hys⟩) hb

theorem Decides.imp {stages : List Stage} {r : Except Failure α} {Gives Gives' : α → Prop}
    (h : Decides read o stages Gives r) (himp : ∀ a, Gives a → Gives' a) :
    Decides read o stages Gives' r := by
  cases h with
  | failure h => exact .failure h
  | success hstages ha => exact .success hstages (himp _ ha)

theorem Decides.eq_error {stages : List Stage} {r : Except Failure α} {Gives : α → Prop}
    {e : Failure} (h : Decides read o stages Gives r)
    (hfirst : FirstFailure (Stage.Fails read o) stages e) : r = .error e := by
  cases h with
  | failure h => rw [h.unique Stage.Fails.unique hfirst]
  | success hstages =>
    obtain ⟨stage, hstage, e', hfails⟩ := exists_firstFailure_iff.1 ⟨e, hfirst⟩
    exact absurd hfails (hstages stage hstage e')

theorem Decides.exists_eq_ok {stages : List Stage} {r : Except Failure α} {Gives : α → Prop}
    (h : Decides read o stages Gives r)
    (hnone : ∀ stage ∈ stages, Stage.Passes read o stage) : ∃ a, r = .ok a ∧ Gives a := by
  cases h with
  | failure h =>
    obtain ⟨stage, hstage, e, hfails⟩ := exists_firstFailure_iff.1 ⟨_, h⟩
    exact absurd hfails (hnone stage hstage e)
  | success _ ha => exact ⟨_, rfl, ha⟩

/-- The settings that are read, where files hold what `read` gives. -/
def settingsFrom (read : String → Option String) : Option String → Except Failure Settings
  | none => .ok { }
  | some path =>
    match read path with
    | none => .error (.query (.unreadableSettings path))
    | some text => (Settings.ofText text).mapError .query

/-- The text of the request. -/
def requestFrom (read : String → Option String) (path : String) : Except Failure String :=
  match read path with
  | none => .error .io
  | some text => .ok text

/-- What a compilation comes to before it writes. -/
def planned (read : String → Option String) (o : CompileOptions) : Except Failure Plan := do
  let settings ← settingsFrom read o.settings
  let settings ← withDialect settings o.dialect
  let text ← requestFrom read o.request
  let request ← (Request.ofText text).mapError .query
  (settings.plan request).outcome.mapError .query

/-- Settings fail to be read, to be of the right shape, or to be accepted. -/
theorem decides_settings : Decides read o [.settingsFile, .settingsShape, .separators]
    (o.GivesSettings read) (settingsFrom read o.settings) := by
  cases hsettings : o.settings with
  | none =>
    have hgives : o.GivesSettings read { } := .standard hsettings
    have hfile : Stage.Passes read o .settingsFile :=
      Stage.passes_settingsFile fun path hpath => by rw [hsettings] at hpath; cases hpath
    have hvalid := Stage.passes_separators hgives Separators.validate_standard
    have hshape := Stage.passes_settingsShape hgives
    exact .behind hfile (.behind hshape (.behind hvalid (.done hgives)))
  | some path =>
    rw [settingsFrom]
    cases hread : read path with
    | none => exact .here (.settingsFile hsettings hread)
    | some text =>
      have hfile : Stage.Passes read o .settingsFile := by
        refine Stage.passes_settingsFile fun path' hpath => ⟨text, ?_⟩
        rw [← Option.some.inj (hsettings.symm.trans hpath), hread]
      refine .behind hfile ?_
      dsimp only
      rw [Settings.ofText]
      cases hshape : (Json.read? text).bind Settings.ofJson? with
      | none =>
        refine .here (.settingsShape hsettings hread fun j s hj hs => ?_)
        rw [settings_eq_some_iff.2 ⟨j, hj, hs⟩] at hshape
        cases hshape
      | some s =>
        obtain ⟨j, hj, hs⟩ := settings_eq_some_iff.1 hshape
        have hgives : o.GivesSettings read s := .file hsettings hread hj hs
        refine .behind (Stage.passes_settingsShape hgives) ?_
        dsimp only
        cases hvalid : s.separators.validate with
        | error e => exact .here (.separators hgives (Separators.validate_eq_error_iff.1 hvalid))
        | ok _ => exact .behind (Stage.passes_separators hgives hvalid) (.done hgives)

/-- A dialect fails to be one. -/
theorem decides_dialect (s : Settings) : Decides read o [.dialectName]
    (fun chosen => chosen.separators = s.separators ∧ o.ChoosesDialect s chosen.dialect)
    (withDialect s o.dialect) := by
  cases hdialect : o.dialect with
  | none =>
    have hchosen : o.ChoosesDialect s s.dialect := .settings hdialect
    exact .behind (Stage.passes_dialectName hchosen) (.done ⟨rfl, hchosen⟩)
  | some name =>
    have hcore : Text.TrimsTo name (Text.trim name) := Text.trimsTo_iff.2 rfl
    obtain ⟨hfound, hmissed⟩ := Dialect.ofName_iff hcore
    rw [withDialect]
    cases hname : Dialect.ofName name with
    | error e =>
      obtain ⟨hnone, rfl⟩ := (hmissed e).1 hname
      exact .here (.dialectName hdialect hcore hnone)
    | ok d =>
      have hchosen : o.ChoosesDialect s d := .named hdialect hcore ((hfound d).1 hname)
      exact .behind (Stage.passes_dialectName hchosen) (.done ⟨rfl, hchosen⟩)

/-- The request fails to be read. -/
theorem decides_requestFile : Decides read o [.requestFile]
    (fun text => read o.request = some text) (requestFrom read o.request) := by
  rw [requestFrom]
  cases hread : read o.request with
  | none => exact .here (.requestFile hread)
  | some text => exact .behind (Stage.passes_requestFile hread) (.done rfl)

/-- It fails to be of the right shape, or to name operators and then directions that there are. -/
theorem decides_request {text : String} (hread : read o.request = some text) :
    Decides read o [.requestShape, .operators, .directions]
      (o.GivesRequest read) ((Request.ofText text).mapError .query) := by
  rw [Request.ofText]
  cases hentry : (Json.read? text).bind RequestEntry.ofJson? with
  | none =>
    refine .here (.requestShape hread fun j entry hj he => ?_)
    rw [Request.entry_eq_some_iff.2 ⟨j, hj, he⟩] at hentry
    cases hentry
  | some entry =>
    obtain ⟨j, hj, he⟩ := Request.entry_eq_some_iff.1 hentry
    have hgives : o.GivesEntry read entry := .file hread hj he
    refine .behind (Stage.passes_requestShape hgives) ?_
    simp only [RequestEntry.resolve]
    cases hconditions : entry.conditions.mapM ConditionEntry.resolve with
    | error err =>
      obtain ⟨word, hfirst, rfl⟩ := Request.conditions_eq_error_iff.1 hconditions
      exact .here (.operators hgives hfirst)
    | ok conditions =>
      have hmeans := Request.conditions_eq_ok_iff.1 hconditions
      refine .behind (Stage.passes_operators hgives hmeans) ?_
      cases hsorts : entry.sorts.mapM SortEntry.resolve with
      | error err =>
        obtain ⟨word, hfirst, rfl⟩ := Request.sorts_eq_error_iff.1 hsorts
        exact .here (.directions hgives hfirst)
      | ok sorts =>
        have hrules := Request.sorts_eq_ok_iff.1 hsorts
        exact .behind (Stage.passes_directions hgives hrules)
          (.done ⟨entry, hgives, hmeans, hrules, rfl⟩)

/-- A condition fails to give two bounds. -/
theorem decides_ranges {s chosen : Settings} {request : Request} (hs : o.GivesSettings read s)
    (hchosen : chosen.separators = s.separators) (hrequest : o.GivesRequest read request) :
    Decides read o [.ranges] (fun plan => (chosen.plan request).outcome = .ok plan)
      ((chosen.plan request).outcome.mapError .query) := by
  obtain ⟨entry, hentry, hconditions, -, -⟩ := hrequest
  cases hcompile : (chosen.compile request.conditions).outcome with
  | error m =>
    have hterms := Settings.terms_of_compile_error hcompile
    rw [hchosen, Separators.outcome_terms_eq_error_iff] at hterms
    rw [Settings.plan_eq_of_error hcompile]
    exact .here (.ranges hs hentry hconditions hterms)
  | ok p =>
    obtain ⟨terms, hterms, -⟩ := Settings.exists_terms_of_compile hcompile
    rw [hchosen] at hterms
    rw [Settings.plan_eq hcompile]
    exact .behind (Stage.passes_ranges hs hentry hconditions hterms) (.done rfl)

/-- The plan that the files ask for. -/
def CompileOptions.GivesPlan (o : CompileOptions) (read : String → Option String) (plan : Plan) :
    Prop :=
  ∃ s d request, o.GivesSettings read s ∧ o.ChoosesDialect s d ∧ o.GivesRequest read request ∧
    (Settings.plan ⟨s.separators, d⟩ request).outcome = .ok plan

/-- They ask for one plan at most. -/
theorem CompileOptions.GivesPlan.unique {plan plan' : Plan} (h : o.GivesPlan read plan)
    (h' : o.GivesPlan read plan') : plan = plan' := by
  obtain ⟨s, d, request, hs, hd, hrequest, hplan⟩ := h
  obtain ⟨s', d', request', hs', hd', hrequest', hplan'⟩ := h'
  obtain rfl := hs.unique hs'
  obtain rfl := hd.unique hd'
  obtain rfl := hrequest.unique hrequest'
  exact Except.ok.inj (hplan.symm.trans hplan')

/-- **All stages in order** decide what a compilation comes to before it writes. -/
theorem decides_planned (read : String → Option String) (o : CompileOptions) :
    Decides read o Stage.all (o.GivesPlan read) (planned read o) := by
  -- one group of stages for each step of the compilation
  have hall : Stage.all = [Stage.settingsFile, .settingsShape, .separators]
      ++ ([Stage.dialectName] ++ ([Stage.requestFile]
        ++ ([Stage.requestShape, .operators, .directions] ++ [Stage.ranges]))) := rfl
  rw [hall]
  refine decides_settings.bind fun s hs => ?_
  refine (decides_dialect s).bind fun chosen ⟨hchosen, hdialect⟩ => ?_
  refine decides_requestFile.bind fun text hread => ?_
  refine (decides_request hread).bind fun request hrequest => ?_
  refine (decides_ranges hs hchosen hrequest).imp fun plan hplan => ?_
  refine ⟨s, chosen.dialect, request, hs, hdialect, hrequest, ?_⟩
  rw [← hchosen]
  exact hplan

end

/-! ## Runs -/

section

variable {σ α β γ : Type}

/-- The last step, taken on the state if there is something to take it with. -/
def concluded (before : σ) (last : γ → Except Failure β × σ) :
    Except Failure γ → Except Failure β × σ
  | .ok c => last c
  | .error e => (.error e, before)

/-- A step that leaves the state as it is can be taken beforehand: what is done behind it is then
    done on the same state, unless the step failed. -/
theorem run_bind_of_steady {x : ExceptT Failure (StateM σ) α} {r : Except Failure α} {before : σ}
    (hx : x.run.run before = (r, before)) {f : α → ExceptT Failure (StateM σ) β}
    {g : α → Except Failure γ} {last : γ → Except Failure β × σ}
    (hf : ∀ a, (f a).run.run before = concluded before last (g a)) :
    (x >>= f).run.run before = concluded before last (r >>= g) := by
  show (ExceptT.bindCont f (x.run.run before).1).run (x.run.run before).2 = _
  rw [hx]
  cases r with
  | error e => rfl
  | ok a => exact hf a

theorem run_ofExcept (r : Except Failure α) (before : σ) :
    (MonadExcept.ofExcept r : ExceptT Failure (StateM σ) α).run.run before = (r, before) := by
  cases r <;> rfl

theorem planOfText_eq_bind (s : Settings) (text : String) :
    (planOfText s text).mapError Failure.query = (do
      let request ← (Request.ofText text).mapError .query
      (s.plan request).outcome.mapError .query) := by
  rw [planOfText]
  cases Request.ofText text <;> rfl

variable {files : Files (StateM σ)} {read : String → Option String} {before : σ}

theorem run_settingsFrom (hread : ∀ path, files.read path before = (read path, before))
    (path : Option String) :
    (readSettings files path).run.run before = (settingsFrom read path, before) := by
  cases path with
  | none => rfl
  | some path => rw [run_readSettings, hread]; rfl

theorem run_requestFrom (hread : ∀ path, files.read path before = (read path, before))
    (path : String) :
    (readRequest files path).run.run before = (requestFrom read path, before) := by
  have hrun : (readRequest files path).run.run before = (ExceptT.run
      (match (files.read path before).1 with
        | none => throw .io
        | some text => pure text : ExceptT Failure (StateM σ) String)).run
          (files.read path before).2 := rfl
  rw [hrun, hread, requestFrom]
  cases read path <;> rfl

/-- **Nothing before the end.**  Where reading leaves the files as they are, so does all of a
    compilation but its last step, which is taken if there is a plan. -/
theorem run_planned (hread : ∀ path, files.read path before = (read path, before))
    (o : CompileOptions) : (compile files o).run.run before = concluded before
      (fun plan => (emit files (o.write plan.toJson) o.output).run.run before)
      (planned read o) := by
  rw [compile, planned]
  refine run_bind_of_steady (run_settingsFrom hread o.settings) fun s => ?_
  refine run_bind_of_steady (run_ofExcept _ before) fun chosen => ?_
  refine run_bind_of_steady (run_requestFrom hread o.request) fun text => ?_
  rw [← planOfText_eq_bind]
  conv_rhs => rw [← bind_pure ((planOfText chosen text).mapError Failure.query)]
  refine run_bind_of_steady (run_ofExcept _ before) fun plan => ?_
  rfl

/-- What a run leaves behind when its compilation comes to this. -/
def Outcome.ofResult : Except Failure String → Outcome
  | .ok output => { output }
  | .error e => { ending := .failure e }

/-- A run that compiles prints what the compilation comes to. -/
theorem run_of_compile {args : List String} {o : CompileOptions}
    (h : Invocation.ofArguments? args = some (.compile o)) :
    (run files args).run before = (Outcome.ofResult ((compile files o).run.run before).1,
      ((compile files o).run.run before).2) := by
  rw [run, h]
  dsimp only
  rw [StateT.run_bind]
  rcases (compile files o).run.run before with ⟨_ | output, after⟩ <;> rfl

/-- What a run of the last step comes to: the file is written, or it is not. -/
theorem run_emit {files : Files (StateM σ)} {before : σ} (text name : String) :
    (emit files text (some name)).run.run before =
      (if (files.write name text before).1 then .ok "" else .error .io,
        (files.write name text before).2) := by
  have hrun : (emit files text (some name)).run.run before =
      (ExceptT.run (if (files.write name text before).1 then pure "" else throw .io :
        ExceptT Failure (StateM σ) String)).run (files.write name text before).2 := rfl
  rw [hrun]
  cases (files.write name text before).1 <;> rfl

end

/-- **Compiling is making the plan, all or nothing.**  On any file system, a run ends with the first
    failure of the stages, with nothing printed and every file as it was.  Where all stages pass
    there is a plan: that of the request, under the separators of the settings and the dialect that
    is chosen.  What is emitted is a text of the plan and of nothing else, on several lines if that
    is asked for.  It is printed as a line, and no file is changed; or one file holds it and nothing
    else, whatever that file held before, and no other file is changed; or that file cannot be
    written, and then again nothing is printed and every file is as it was. -/
theorem run_compile {σ : Type} (fs : FileSystem σ) (before : σ) {args : List String}
    {o : CompileOptions} (h : Invocation.ofArguments? args = some (.compile o)) :
    let read (name : String) : Option String := (fs.access.read name before).1
    let ran : Outcome × σ := (run fs.access args).run before
    (∀ e, FirstFailure (Stage.Fails read o) Stage.all e →
      ran = ({ ending := .failure e, output := "" }, before) ∧ ran.1.ending.exitCode = 1) ∧
    ((∀ stage ∈ Stage.all, Stage.Passes read o stage) →
      ∃ plan j text, o.GivesPlan read plan ∧ IsPlan j plan ∧ text = o.write j ∧
        Json.IsDocument text j ∧ ('\n' ∈ text.toList ↔ o.pretty = true) ∧
        (o.output = none → ran = ({ ending := .success, output := text ++ "\n" }, before)) ∧
        ∀ name, o.output = some name →
          ((fs.access.write name text before).1 = false →
            ran = ({ ending := .failure .io, output := "" }, before) ∧
            ran.1.ending.exitCode = 1) ∧
          ((fs.access.write name text before).1 = true →
            ran.1 = { ending := .success, output := "" } ∧
            ∃ place, fs.place? before name = some place ∧
              fs.content? ran.2 place = some text.toUTF8 ∧
              ∀ other, other ≠ place → fs.content? ran.2 other = fs.content? before other)) := by
  intro read ran
  -- all that is done before the last step is decided by what the files hold
  have hran : ran = _ := run_of_compile h
  have hread (name : String) : fs.access.read name before = (read name, before) :=
    Prod.ext rfl (fs.read_state before name)
  rw [run_planned hread] at hran
  have hdecided := decides_planned read o
  refine ⟨fun e hfirst => ?_, fun hnone => ?_⟩
  · rw [hdecided.eq_error hfirst] at hran
    exact ⟨hran, by rw [hran]; rfl⟩
  · obtain ⟨plan, hplanned, hplan⟩ := hdecided.exists_eq_ok hnone
    rw [hplanned, concluded] at hran
    refine ⟨plan, plan.toJson, _, hplan, (writes_plan _ _).2 rfl, rfl,
      Json.isDocument_textOf o.pretty _, Json.newline_mem_textOf_iff, fun houtput => ?_,
      fun name houtput => ⟨fun hfails => ?_, fun hwritten => ?_⟩⟩
    · rw [hran, houtput]
      rfl
    · rw [houtput, run_emit, hfails, fs.write_failed before name _ hfails] at hran
      exact ⟨hran, by rw [hran]; rfl⟩
    · rw [houtput, run_emit, hwritten] at hran
      rw [hran]
      exact ⟨rfl, fs.write_done before name _ hwritten⟩

/-- One file holds the settings and the request, and then the plan in the dialect of the command
    line. -/
theorem run_compile_in_place :
    let given := "\x7b\"dialect\":\"dynamicLinq\",\"conditions\":[[\"a\",\"1\",0]]\x7d"
    let emitted := "\x7b\"filter\":\x7b\"expression\":\"(\\\"a\\\" = $1)\",\"arguments\":[\"1\"]\x7d,"
      ++ "\"ordering\":null,\"page\":null\x7d"
    let before : FileTree :=
      ⟨[(["w", "q"], given.toUTF8), (["w", "r"], ⟨#[255]⟩)], [], ["w"]⟩
    let args := ["compile", "--request", "q", "--settings=./q", "--dialect", " PG ", "--output",
      "/w/../w/q"]
    let o : CompileOptions := ⟨"q", some "./q", some " PG ", some "/w/../w/q", false⟩
    let ran : Outcome × FileTree := (run FileTree.access args).run before
    Invocation.ofArguments? args = some (.compile o) ∧
      (∀ stage ∈ Stage.all, Stage.Passes before.read o stage) ∧
      ran.1 = { ending := .success, output := "" } ∧
      ran.2.files.lookup ["w", "q"] = some emitted.toUTF8 ∧
      ran.2.files.lookup ["w", "r"] = some ⟨#[255]⟩ := by
  intro given emitted before args o ran
  let plan : Plan := { filter := some ⟨"(\"a\" = $1)", ["1"]⟩ }
  have h : Invocation.ofArguments? args = some (.compile o) := by decide
  have hread : before.read "q" = some given ∧ before.read "./q" = some given := by
    rw [FileTree.read_eq_some_iff, FileTree.read_eq_some_iff]
    exact ⟨⟨["w", "q"], by decide, rfl⟩, ["w", "q"], by decide, rfl⟩
  have hplanned : planned before.read o = .ok plan := by
    have hgiven : planned (fun _ => some given) o = .ok plan := by decide +kernel
    rw [← hgiven]
    simp only [planned, settingsFrom, requestFrom, o, hread]
  have hdecided := decides_planned before.read o
  rw [hplanned] at hdecided
  cases hdecided with
  | success hnone hplan =>
    obtain ⟨plan', j, text, hplan', hj, rfl, -, -, -, houtput⟩ :=
      (run_compile FileTree.fileSystem before h).2 hnone
    obtain rfl := hplan.unique hplan'
    obtain rfl := (writes_plan _ _).1 hj
    have hemitted : o.write plan.toJson = emitted := by decide +kernel
    rw [hemitted] at houtput
    have hwritten : (FileTree.access.write "/w/../w/q" emitted before).1 = true := by
      rw [FileTree.run_write,
        (before.write?_eq_some_iff).2 ⟨["w", "q"], by decide, by decide, rfl⟩]
    obtain ⟨hended, place, hplace, hcontent, hothers⟩ := (houtput _ rfl).2 hwritten
    have hplaced : before.path? "/w/../w/q" = some ["w", "q"] := by decide
    obtain rfl := Option.some.inj (hplaced.symm.trans hplace)
    refine ⟨h, hnone, hended, hcontent, hothers ["w", "r"] ?_⟩
    exact (by decide : (["w", "r"] : Path) ≠ ["w", "q"])

end FilterPlan.Command
