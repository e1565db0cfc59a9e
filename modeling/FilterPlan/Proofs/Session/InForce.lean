/-
  Separators in force, and what is packed with them.

  1. **Sources** — separators come into force where `validate` accepts them: on their own, in
     settings that are read from a text, in a session, or on the command line.  `InForce` lists these
     ways.
  2. **Sessions** — a step puts no other separators in force than those of a text that was read, so
     validated separators stay validated through a run of any length.
  3. **The crux (`packing_lossless`)** — whatever the way, identifiers and values that are packed
     with separators in force are unpacked as they were.
-/
import FilterPlan.Command.Run
import FilterPlan.Session
import FilterPlan.Proofs.Condition.Packing
import FilterPlan.Proofs.Traversal

namespace FilterPlan

/-! ## Settings -/

/-- Settings that are read from a text have validated separators. -/
theorem Settings.validate_of_ofText {text : String} {settings : Settings}
    (h : Settings.ofText text = .ok settings) : settings.separators.validate = .ok () := by
  rw [ofText] at h
  cases hread : (Json.read? text).bind ofJson? with
  | none => rw [hread] at h; cases h
  | some read =>
    simp only [hread, mapError_eq_ok_iff] at h
    obtain ⟨_, hvalid, rfl⟩ := exists_of_map_eq_ok h
    exact hvalid

theorem Separators.validate_standard : ({ } : Separators).validate = .ok () := by decide +kernel

/-! ## Sessions -/

namespace Session

variable {τ : Type} [Target (StateM τ)] {fresh : τ} {s : Session τ}

/-- One step keeps separators validated. -/
theorem validate_next (step : Step) (valid : s.settings.separators.validate = .ok ()) :
    (s.next fresh step).settings.separators.validate = .ok () := by
  rw [next, take]
  cases hsettings : step.reconfigure s.settings with
  | error e => exact valid
  | ok settings =>
    show settings.separators.validate = .ok ()
    -- only a text brings other separators, and it was refused unless they are validated
    cases step with
    | configure text => exact Settings.validate_of_ofText hsettings
    | filter _ | sort _ | page _ | apply _ | reset =>
      rw [← Except.ok.inj hsettings]
      exact valid

/-- **Runs.**  Separators that are validated at the start of a run are so at its end. -/
theorem validate_final (steps : List Step) (valid : s.settings.separators.validate = .ok ()) :
    (s.final fresh steps).settings.separators.validate = .ok () := by
  induction steps generalizing s with
  | nil => exact valid
  | cons step rest ih => exact ih (validate_next step valid)

end Session

/-! ## Command lines -/

namespace Command

/-- Settings are read from the text in their file, if it can be read. -/
theorem run_readSettings {σ : Type} (files : Files (StateM σ)) (path : String) (before : σ) :
    (readSettings files (some path)).run.run before =
      (match (files.read path before).1 with
        | none => .error (.query (.unreadableSettings path))
        | some text => (Settings.ofText text).mapError .query, (files.read path before).2) := by
  -- reading the file is all that touches the state; what is done with the text is pure
  have hread : (readSettings files (some path)).run.run before
      = (ExceptT.run (match (files.read path before).1 with
        | none => throw (.query (.unreadableSettings path))
        | some text => MonadExcept.ofExcept ((Settings.ofText text).mapError .query) :
          ExceptT Failure (StateM σ) Settings)).run (files.read path before).2 := rfl
  rw [hread]
  cases (files.read path before).1 with
  | none => rfl
  | some text =>
    dsimp only
    cases Settings.ofText text <;> rfl

/-- Settings that are read from a file have validated separators, and so have the standard ones. -/
theorem validate_of_readSettings {σ : Type} {files : Files (StateM σ)} {path : Option String}
    {settings : Settings} {before after : σ}
    (h : (readSettings files path).run.run before = (.ok settings, after)) :
    settings.separators.validate = .ok () := by
  cases path with
  | none =>
    have hpair : ((.ok { }, before) : Except Failure Settings × σ) = (.ok settings, after) := h
    rw [← Except.ok.inj (Prod.mk.inj hpair).1]
    exact Separators.validate_standard
  | some path =>
    rw [run_readSettings] at h
    have hresult := (Prod.mk.inj h).1
    cases hcontent : (files.read path before).1 with
    | none => rw [hcontent] at hresult; cases hresult
    | some text =>
      simp only [hcontent, mapError_eq_ok_iff] at hresult
      exact Settings.validate_of_ofText hresult

/-- A dialect that is chosen on the command line leaves the separators alone. -/
theorem separators_withDialect {settings chosen : Settings} {name : Option String}
    (h : withDialect settings name = .ok chosen) : chosen.separators = settings.separators := by
  cases name with
  | none => rw [← Except.ok.inj h]
  | some name =>
    rw [withDialect, mapError_eq_ok_iff] at h
    obtain ⟨dialect, -, rfl⟩ := exists_of_map_eq_ok h
    rfl

end Command

/-! ## Sources -/

namespace Separators

/-- The ways in which separators come into force: they are accepted on their own, they belong to
    settings that a text gives, to a session that began with the standard settings, or to a
    compilation on the command line, whatever the files behave like. -/
inductive InForce : Separators → Prop
  | accepted {s : Separators} (h : s.validate = .ok ()) : InForce s
  | given {text : String} {settings : Settings} (h : Settings.ofText text = .ok settings) :
    InForce settings.separators
  | session {τ : Type} [Target (StateM τ)] (fresh target : τ) (steps : List Step) :
    InForce (Session.final fresh ⟨{ }, target⟩ steps).settings.separators
  | command {σ : Type} {files : Command.Files (StateM σ)} {options : Command.CompileOptions}
    {before after : σ} {read chosen : Settings}
    (h : (Command.readSettings files options.settings).run.run before = (.ok read, after))
    (h' : Command.withDialect read options.dialect = .ok chosen) : InForce chosen.separators

/-- **Whatever is in force is validated.** -/
theorem InForce.validate {s : Separators} (h : s.InForce) : s.validate = .ok () := by
  cases h with
  | accepted h => exact h
  | given h => exact Settings.validate_of_ofText h
  | session fresh target steps => exact Session.validate_final steps validate_standard
  | command h h' =>
    rw [Command.separators_withDialect h']
    exact Command.validate_of_readSettings h

/-- **Packing is lossless.**  Identifiers that are packed with separators in force, under a marker
    or none and with white space around them at will, are just the targets of the field text, in
    order and under the connective that was chosen; they count as a list if there are two or more.
    Values without a separator in them, none of them empty, are just what is unpacked from their
    join.  So a condition that packs both binds the values once for each identifier, where its
    operator asks for membership or for as many bounds as there are values. -/
theorem packing_lossless {s : Separators} (inForce : s.InForce) {names : List String}
    (nonempty : names ≠ []) (identifiers : ∀ n ∈ names, Text.IsIdentifier n) {join : Connective}
    {field : String} (packs : s.PacksFields names join field) :
    (∀ value operator skip, Condition.targets s ⟨field, value, operator, skip⟩
      = ⟨join, names, decide (2 ≤ names.length)⟩) ∧
    ∀ values : List String, (∀ v ∈ values, v ≠ "" ∧ s.value ∉ v.toList) →
      Text.allBlank (Text.join s.value values) = false →
      s.valuesIn (Text.join s.value values) = values ∧
      ∀ (d : Dialect) (operator : Operator) (skip : Bool),
        operator = .oneOf ∨ operator = .noneOf ∨
          operator.packsBounds = true ∧ values.length = 2 →
        ∃ p, (Settings.compile ⟨s, d⟩
            [⟨field, Text.join s.value values, operator, skip⟩]).outcome = .ok p ∧
          p.arguments = (List.replicate names.length values).flatten := by
  have htargets : s.targets field = ⟨join, names, decide (2 ≤ names.length)⟩ :=
    targets_of_packsFields inForce.validate nonempty identifiers packs
  refine ⟨fun _ _ _ => htargets, fun values free notBlank => ?_⟩
  have hvalues : s.valuesIn (Text.join s.value values) = values := valuesIn_join free
  refine ⟨hvalues, fun d operator skip takes => ?_⟩
  have hsome : values ≠ [] := by
    rintro rfl
    cases notBlank
  exact arguments_of_packed d nonempty notBlank hvalues hsome htargets takes

/-- Names that look like markers, packed behind a real one with separators that a session was given,
    and values of which one is blank. -/
theorem packing_lossless_in_session :
    let text := "\x7b\"syntax\":\x7b\"fieldSeparator\":\";\",\"valueSeparator\":\"#\"\x7d\x7d"
    let s := (Session.final ({ } : Plan) ⟨{ }, { }⟩ [.configure text]).settings.separators
    let names := ["order", "or", "and.é_1"]
    let values := ["a;b", " "]
    let field := "\tAnD #order ; or;and.é_1"
    s.InForce ∧ names ≠ [] ∧ (∀ n ∈ names, Text.IsIdentifier n) ∧ s.PacksFields names .and field ∧
      (∀ v ∈ values, v ≠ "" ∧ s.value ∉ v.toList) ∧
      Text.allBlank (Text.join s.value values) = false ∧
      s.targets field = ⟨.and, names, true⟩ ∧ s.valuesIn (Text.join s.value values) = values ∧
      ∃ p, (Settings.compile ⟨s, .postgres⟩
          [⟨field, Text.join s.value values, .noneOf, true⟩]).outcome = .ok p ∧
        p.arguments = ["a;b", " ", "a;b", " ", "a;b", " "] := by
  intro text s names values field
  have inForce : s.InForce := .session _ _ _
  have hs : s = ⟨';', '#'⟩ := by decide +kernel
  have nonempty : names ≠ [] := by decide
  have identifiers : ∀ n ∈ names, Text.IsIdentifier n := by decide +kernel
  have packs : s.PacksFields names .and field := by
    have hfield : field = "\tAnD " ++ s.value.toString
        ++ Text.join s.field ["order ", " or", "and.é_1"] := by
      rw [hs]
      decide
    have hmarker : Connective.and.IsMarker "AnD".toList := .cons (.inr rfl) (.cons (.inl rfl)
      (.cons (.inr rfl) .nil))
    rw [hfield]
    refine .marked hmarker ⟨"\t", " ", rfl, rfl, rfl⟩ (.cons ?_ (.cons ?_ (.cons ?_ .nil)))
    · exact ⟨"", " ", rfl, rfl, rfl⟩
    · exact ⟨" ", "", rfl, rfl, rfl⟩
    · exact ⟨"", "", rfl, rfl, rfl⟩
  have free : ∀ v ∈ values, v ≠ "" ∧ s.value ∉ v.toList := by
    rw [hs]
    decide
  have notBlank : Text.allBlank (Text.join s.value values) = false := by
    rw [hs]
    decide
  obtain ⟨htargets, hpacked⟩ := packing_lossless inForce nonempty identifiers packs
  obtain ⟨hvalues, hbound⟩ := hpacked values free notBlank
  exact ⟨inForce, nonempty, identifiers, packs, free, notBlank, htargets "" .equal true, hvalues,
    hbound .postgres .noneOf true (.inr (.inl rfl))⟩

end Separators

end FilterPlan
