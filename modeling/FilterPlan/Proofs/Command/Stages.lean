/-
  What can go wrong when a request is compiled on the command line.

  1. **Sources** — settings, a dialect and a request are given by files and options, each of them in
     one way only.
  2. **Failures** — `Fails` says of each stage by itself how it fails, given what the files hold.
  3. **The crux (`Fails.unique`)** — a stage fails in one way only, and it passes where its part of
     the sources is in order.  So there is one first failure at most, whoever looks for it.
-/
import FilterPlan.Command.Run
import FilterPlan.Proofs.Condition.MalformedRange
import FilterPlan.Proofs.Condition.Packing
import FilterPlan.Proofs.Wire.Verdict
import FilterPlan.Proofs.Wire.Words

namespace FilterPlan.Command

/-! ## Stages -/

/-- What a compilation goes through before it writes. -/
inductive Stage
  | settingsFile
  | settingsShape
  | separators
  | dialectName
  | requestFile
  | requestShape
  | operators
  | directions
  | ranges

/-- The stages in their order. -/
def Stage.all : List Stage :=
  [.settingsFile, .settingsShape, .separators, .dialectName, .requestFile, .requestShape,
    .operators, .directions, .ranges]

/-! ## Sources -/

/-- The settings are those of the named file, or the standard ones where none is named. -/
inductive CompileOptions.GivesSettings (o : CompileOptions) (read : String → Option String) :
    Settings → Prop
  | standard (h : o.settings = none) : o.GivesSettings read ⟨⟨',', '|'⟩, .dynamicLinq⟩
  | file {path text : String} {j : Json} {s : Settings} (h : o.settings = some path)
    (hread : read path = some text) (hj : Json.IsDocument text j) (hs : IsSettings j s) :
    o.GivesSettings read s

/-- The dialect is the named one, or that of the settings where none is named. -/
inductive CompileOptions.ChoosesDialect (o : CompileOptions) (s : Settings) : Dialect → Prop
  | settings (h : o.dialect = none) : o.ChoosesDialect s s.dialect
  | named {name core : String} {d : Dialect} (h : o.dialect = some name)
    (hcore : Text.TrimsTo name core) (hd : Dialect.AskedFor core d) : o.ChoosesDialect s d

/-- The request file holds a request, whose labels may be any. -/
inductive CompileOptions.GivesEntry (o : CompileOptions) (read : String → Option String) :
    RequestEntry → Prop
  | file {text : String} {j : Json} {entry : RequestEntry} (hread : read o.request = some text)
    (hj : Json.IsDocument text j) (hentry : IsRequestEntry j entry) :
    o.GivesEntry read entry

/-- The request is what its file holds, with all labels looked up. -/
def CompileOptions.GivesRequest (o : CompileOptions) (read : String → Option String)
    (request : Request) : Prop :=
  ∃ entry, o.GivesEntry read entry
    ∧ List.Forall₂ ConditionEntry.Means entry.conditions request.conditions
    ∧ List.Forall₂ SortEntry.Means entry.sorts request.sorts
    ∧ request.page = entry.page

section

variable {read : String → Option String} {o : CompileOptions}

theorem settings_eq_some_iff {text : String} {s : Settings} :
    (Json.read? text).bind Settings.ofJson? = some s
      ↔ ∃ j, Json.IsDocument text j ∧ IsSettings j s :=
  decodes_settings.read?_bind_eq_some_iff

theorem CompileOptions.GivesSettings.unique {s s' : Settings} (h : o.GivesSettings read s)
    (h' : o.GivesSettings read s') : s = s' := by
  cases h with
  | standard h =>
    cases h' with
    | standard => rfl
    | file h' => rw [h] at h'; cases h'
  | file h hread hj hs =>
    cases h' with
    | standard h' => rw [h'] at h; cases h
    | file h' hread' hj' hs' =>
      obtain rfl := Option.some.inj (h.symm.trans h')
      obtain rfl := Option.some.inj (hread.symm.trans hread')
      have hsettings := settings_eq_some_iff.2 ⟨_, hj, hs⟩
      exact Option.some.inj (hsettings.symm.trans (settings_eq_some_iff.2 ⟨_, hj', hs'⟩))

theorem CompileOptions.GivesEntry.unique {entry entry' : RequestEntry}
    (h : o.GivesEntry read entry) (h' : o.GivesEntry read entry') : entry = entry' := by
  obtain ⟨hread, hj, hentry⟩ := h
  obtain ⟨hread', hj', hentry'⟩ := h'
  obtain rfl := Option.some.inj (hread.symm.trans hread')
  have hgiven := Request.entry_eq_some_iff.2 ⟨_, hj, hentry⟩
  exact Option.some.inj (hgiven.symm.trans (Request.entry_eq_some_iff.2 ⟨_, hj', hentry'⟩))

theorem CompileOptions.ChoosesDialect.unique {s : Settings} {d d' : Dialect}
    (h : o.ChoosesDialect s d) (h' : o.ChoosesDialect s d') : d = d' := by
  cases h with
  | settings h =>
    cases h' with
    | settings => rfl
    | named h' => rw [h] at h'; cases h'
  | named h hcore hd =>
    cases h' with
    | settings h' => rw [h'] at h; cases h
    | named h' hcore' hd' =>
      obtain rfl := Option.some.inj (h.symm.trans h')
      obtain rfl := hcore.unique hcore'
      exact hd.unique hd'

theorem conditions_unique {entries : List ConditionEntry} {conditions conditions' : List Condition}
    (h : List.Forall₂ ConditionEntry.Means entries conditions)
    (h' : List.Forall₂ ConditionEntry.Means entries conditions') : conditions = conditions' := by
  rw [← Request.conditions_eq_ok_iff] at h h'
  exact Except.ok.inj (h.symm.trans h')

theorem CompileOptions.GivesRequest.unique {request request' : Request}
    (h : o.GivesRequest read request) (h' : o.GivesRequest read request') :
    request = request' := by
  obtain ⟨conditions, sorts, page⟩ := request
  obtain ⟨conditions', sorts', page'⟩ := request'
  obtain ⟨entry, hentry, hconditions, hsorts, rfl⟩ := h
  obtain ⟨entry', hentry', hconditions', hsorts', rfl⟩ := h'
  obtain rfl := hentry.unique hentry'
  obtain rfl := conditions_unique hconditions hconditions'
  rw [← Request.sorts_eq_ok_iff] at hsorts hsorts'
  obtain rfl : sorts = sorts' := Except.ok.inj (hsorts.symm.trans hsorts')
  rfl

end

/-! ## Failures -/

/-- **Failures.**  Each stage fails for its own reason, whatever comes before and after it. -/
inductive Stage.Fails (read : String → Option String) (o : CompileOptions) :
    Stage → Failure → Prop
  /-- There is no text in the settings file. -/
  | settingsFile {path : String} (h : o.settings = some path) (hread : read path = none) :
    Fails read o .settingsFile (.query (.unreadableSettings path))
  /-- There is a text, and it is no document of settings. -/
  | settingsShape {path text : String} (h : o.settings = some path) (hread : read path = some text)
    (hshape : ∀ j s, Json.IsDocument text j → ¬ IsSettings j s) :
    Fails read o .settingsShape (.query .malformedSettings)
  /-- The separators of the settings are refused. -/
  | separators {s : Settings} {e : VocabularyError} (hs : o.GivesSettings read s)
    (h : s.separators.RefusedFor e) : Fails read o .separators (.query (.vocabulary e))
  /-- No dialect has the name, which is reported trimmed and in lower case. -/
  | dialectName {name core : String} (h : o.dialect = some name) (hcore : Text.TrimsTo name core)
    (hnone : ∀ d, ¬ Dialect.AskedFor core d) :
    Fails read o .dialectName (.unknownDialect ⟨String.ofList (core.toList.map Char.toLower)⟩)
  /-- There is no text in the request file. -/
  | requestFile (h : read o.request = none) : Fails read o .requestFile .io
  /-- There is a text, and it is no document of a request. -/
  | requestShape {text : String} (hread : read o.request = some text)
    (hshape : ∀ j entry, Json.IsDocument text j → ¬ IsRequestEntry j entry) :
    Fails read o .requestShape (.query .malformedRequest)
  /-- This is the first condition whose operator nothing answers to. -/
  | operators {entry : RequestEntry} {word : String} (hentry : o.GivesEntry read entry)
    (h : FirstUnknown ConditionEntry.Means ConditionEntry.Unknown entry.conditions word) :
    Fails read o .operators (.query (.vocabulary (.unknownOperator word)))
  /-- This is the first sort rule whose direction nothing answers to. -/
  | directions {entry : RequestEntry} {word : String} (hentry : o.GivesEntry read entry)
    (h : FirstUnknown SortEntry.Means SortEntry.Unknown entry.sorts word) :
    Fails read o .directions (.query (.vocabulary (.unknownDirection word)))
  /-- This is the first condition that asks for a range without two bounds. -/
  | ranges {s : Settings} {entry : RequestEntry} {conditions : List Condition} {m : MalformedRange}
    (hs : o.GivesSettings read s) (hentry : o.GivesEntry read entry)
    (hconditions : List.Forall₂ ConditionEntry.Means entry.conditions conditions)
    (h : FirstFailure (Condition.Misranges s.separators) conditions m) :
    Fails read o .ranges (.query (.malformedRange m))

/-- The stage does not fail. -/
def Stage.Passes (read : String → Option String) (o : CompileOptions) (stage : Stage) : Prop :=
  ∀ e, ¬ Fails read o stage e

section

variable {read : String → Option String} {o : CompileOptions}

/-- **One way to fail.**  A stage does not fail in two ways. -/
theorem Stage.Fails.unique (stage : Stage) (e e' : Failure) (h : Fails read o stage e)
    (h' : Fails read o stage e') : e = e' := by
  -- what a stage looks at is determined by the files, and so is what it says of that
  cases h with
  | settingsFile h =>
    cases h' with
    | settingsFile h' => rw [Option.some.inj (h.symm.trans h')]
  | settingsShape => cases h'; rfl
  | separators hs h =>
    cases h' with
    | separators hs' h' =>
      obtain rfl := hs.unique hs'
      rw [← Separators.validate_eq_error_iff] at h h'
      rw [Except.error.inj (h.symm.trans h')]
  | dialectName h hcore =>
    cases h' with
    | dialectName h' hcore' =>
      obtain rfl := Option.some.inj (h.symm.trans h')
      rw [hcore.unique hcore']
  | requestFile => cases h'; rfl
  | requestShape => cases h'; rfl
  | operators hentry h =>
    cases h' with
    | operators hentry' h' =>
      obtain rfl := hentry.unique hentry'
      have hfails := Request.conditions_eq_error_iff.2 ⟨_, h, rfl⟩
      have hfails' := Request.conditions_eq_error_iff.2 ⟨_, h', rfl⟩
      rw [Except.error.inj (hfails.symm.trans hfails')]
  | directions hentry h =>
    cases h' with
    | directions hentry' h' =>
      obtain rfl := hentry.unique hentry'
      have hfails := Request.sorts_eq_error_iff.2 ⟨_, h, rfl⟩
      have hfails' := Request.sorts_eq_error_iff.2 ⟨_, h', rfl⟩
      rw [Except.error.inj (hfails.symm.trans hfails')]
  | ranges hs hentry hconditions h =>
    cases h' with
    | ranges hs' hentry' hconditions' h' =>
      obtain rfl := hs.unique hs'
      obtain rfl := hentry.unique hentry'
      obtain rfl := conditions_unique hconditions hconditions'
      rw [← Separators.outcome_terms_eq_error_iff] at h h'
      rw [Except.error.inj (h.symm.trans h')]

/-! ## Passing -/

namespace Stage

variable {s : Settings} {entry : RequestEntry} {conditions : List Condition}

theorem passes_settingsFile
    (h : ∀ path, o.settings = some path → ∃ text, read path = some text) :
    Passes read o .settingsFile := by
  intro e hfails
  cases hfails with
  | settingsFile hpath hnone =>
    obtain ⟨text, hread⟩ := h _ hpath
    rw [hread] at hnone
    cases hnone

theorem passes_settingsShape (hs : o.GivesSettings read s) : Passes read o .settingsShape := by
  intro e hfails
  cases hfails with
  | settingsShape h hread hshape =>
    cases hs with
    | standard h' => rw [h'] at h; cases h
    | file h' hread' hj hs =>
      obtain rfl := Option.some.inj (h.symm.trans h')
      obtain rfl := Option.some.inj (hread.symm.trans hread')
      exact hshape _ _ hj hs

theorem passes_separators (hs : o.GivesSettings read s) (hvalid : s.separators.validate = .ok ()) :
    Passes read o .separators := by
  intro e hfails
  cases hfails with
  | separators hs' h =>
    rw [← Separators.validate_eq_error_iff, hs'.unique hs, hvalid] at h
    cases h

theorem passes_dialectName {d : Dialect} (hd : o.ChoosesDialect s d) :
    Passes read o .dialectName := by
  intro e hfails
  cases hfails with
  | dialectName h hcore hnone =>
    cases hd with
    | settings h' => rw [h'] at h; cases h
    | named h' hcore' hd =>
      obtain rfl := Option.some.inj (h.symm.trans h')
      obtain rfl := hcore.unique hcore'
      exact hnone _ hd

theorem passes_requestFile {text : String} (hread : read o.request = some text) :
    Passes read o .requestFile := by
  intro e hfails
  cases hfails with
  | requestFile h =>
    rw [hread] at h
    cases h

theorem passes_requestShape (hentry : o.GivesEntry read entry) : Passes read o .requestShape := by
  intro e hfails
  cases hfails with
  | requestShape hread hshape =>
    obtain ⟨hread', hj, he⟩ := hentry
    obtain rfl := Option.some.inj (hread.symm.trans hread')
    exact hshape _ _ hj he

theorem passes_operators (hentry : o.GivesEntry read entry)
    (hconditions : List.Forall₂ ConditionEntry.Means entry.conditions conditions) :
    Passes read o .operators := by
  intro e hfails
  cases hfails with
  | operators hentry' h =>
    have herror := Request.conditions_eq_error_iff.2 ⟨_, h, rfl⟩
    rw [hentry'.unique hentry, Request.conditions_eq_ok_iff.2 hconditions] at herror
    cases herror

theorem passes_directions {sorts : List SortRule} (hentry : o.GivesEntry read entry)
    (hsorts : List.Forall₂ SortEntry.Means entry.sorts sorts) : Passes read o .directions := by
  intro e hfails
  cases hfails with
  | directions hentry' h =>
    have herror := Request.sorts_eq_error_iff.2 ⟨_, h, rfl⟩
    rw [hentry'.unique hentry, Request.sorts_eq_ok_iff.2 hsorts] at herror
    cases herror

theorem passes_ranges {terms : List Formula} (hs : o.GivesSettings read s)
    (hentry : o.GivesEntry read entry)
    (hconditions : List.Forall₂ ConditionEntry.Means entry.conditions conditions)
    (hterms : (s.separators.terms conditions).outcome = .ok terms) : Passes read o .ranges := by
  intro e hfails
  cases hfails with
  | ranges hs' hentry' hconditions' h =>
    obtain rfl := hs'.unique hs
    obtain rfl := hentry'.unique hentry
    obtain rfl := conditions_unique hconditions' hconditions
    rw [← Separators.outcome_terms_eq_error_iff, hterms] at h
    cases h

end Stage

end

end FilterPlan.Command
