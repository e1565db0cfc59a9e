/-
  Exclusion is the De Morgan dual of membership.

  1. **Duals** — `Formula.dual` swaps the connectives, and equality with its negation; the shape of
     the formula stays.  It is the negation of the formula wherever the dual of each atom is the
     negation of that atom (`eval_dual`), and it binds the same arguments.
  2. **Gathering** — tests that are dual to one another are gathered to formulas that are.
  3. **The crux (`noneOf_dual_oneOf`)** — the test of one field is dual at the level of its values,
     and the markers are dual at the level of the fields.  So both levels swap at once.
-/
import FilterPlan.Proofs.Condition.Packing

namespace FilterPlan

/-! ## Duals -/

/-- The other connective. -/
def Connective.dual : Connective → Connective
  | .or => .and
  | .and => .or

/-- Equality and its negation swapped. -/
def Comparison.dual : Comparison → Comparison
  | .eq => .ne
  | .ne => .eq
  | op => op

/-- The atom with equality and its negation swapped. -/
def Atom.dual : Atom → Atom
  | .compare field op value => .compare field op.dual value
  | .null field op => .null field op.dual
  | .text field test value => .text field test value

theorem Atom.argument?_dual (d : Dialect) (a : Atom) : a.dual.argument? d = a.argument? d := by
  cases a <;> cases d <;> rfl

theorem Connective.unit_dual (op : Connective) : op.dual.unit = !op.unit := by cases op <;> rfl

theorem Connective.apply_dual (op : Connective) (a b : Bool) :
    op.dual.apply (!a) (!b) = !op.apply a b := by
  cases op <;> cases a <;> rfl

namespace Formula

mutual

/-- The formula with the connectives swapped, and equality with its negation. -/
def dual : Formula → Formula
  | .atom a => .atom a.dual
  | .junction op grouped terms => .junction op.dual grouped (duals terms)

/-- The duals of terms in turn. -/
def duals : List Formula → List Formula
  | [] => []
  | term :: rest => term.dual :: duals rest

end

theorem duals_eq_map (terms : List Formula) : duals terms = terms.map dual := by
  induction terms with
  | nil => rfl
  | cons term rest ih => rw [duals, ih, List.map_cons]

theorem dual_grouped? (op : Connective) (terms : List Formula) :
    (grouped? op terms).map dual = grouped? op.dual (terms.map dual) := by
  rw [← duals_eq_map]
  cases terms with
  | nil => rfl
  | cons term rest =>
    show some (dual _) = _
    rw [dual]
    rfl

theorem dual_bare? (op : Connective) (terms : List Formula) :
    (bare? op terms).map dual = bare? op.dual (terms.map dual) := by
  rw [← duals_eq_map]
  cases terms with
  | nil => rfl
  | cons term rest =>
    show some (dual _) = _
    rw [dual]
    rfl

theorem evalTerms_duals {v : Atom → Bool} {op : Connective} {terms : List Formula}
    (hterms : ∀ term ∈ terms, term.dual.eval v = !term.eval v) :
    evalTerms v op.dual (duals terms) = !evalTerms v op terms := by
  induction terms with
  | nil => rw [duals, evalTerms, evalTerms, Connective.unit_dual]
  | cons term rest ih =>
    obtain ⟨hterm, hrest⟩ := List.forall_mem_cons.1 hterms
    rw [duals, evalTerms, evalTerms, hterm, ih hrest, Connective.apply_dual]

/-- **De Morgan.**  Where the dual of each of its atoms is the negation of that atom, the dual of a
    formula is the negation of the formula. -/
theorem eval_dual {v : Atom → Bool} {f : Formula} (hatoms : ∀ a ∈ f.atoms, v a.dual = !v a) :
    f.dual.eval v = !f.eval v := by
  -- on the formula: the terms of a junction are opposed, which is what `evalTerms_duals` asks for
  induction f using Formula.induction with
  | atom a =>
    rw [dual, eval_atom, eval_atom]
    exact hatoms a (by rw [atoms]; exact List.mem_singleton.2 rfl)
  | junction op grouped terms ih =>
    rw [atoms, atomsOf_eq_flatMap] at hatoms
    rw [dual, eval_junction, eval_junction]
    exact evalTerms_duals fun term hterm =>
      ih term hterm fun a ha => hatoms a (List.mem_flatMap.2 ⟨term, hterm, ha⟩)

/-- The atoms of the dual are the duals of the atoms, in order. -/
theorem atoms_dual (f : Formula) : f.dual.atoms = f.atoms.map Atom.dual := by
  induction f using Formula.induction with
  | atom a => rw [dual, atoms, atoms, List.map_cons, List.map_nil]
  | junction op grouped terms ih =>
    rw [dual, atoms, atoms, atomsOf_eq_flatMap, atomsOf_eq_flatMap, duals_eq_map, List.map_flatMap,
      List.flatMap_map]
    exact List.flatMap_congr ih

end Formula

/-! ## Gathering -/

/-- Dual tests are gathered to dual formulas. -/
theorem Targets.gather_dual (t : Targets) (test : String → Option Formula) :
    (t.gather test).map Formula.dual = Targets.gather { t with join := t.join.dual }
      fun field => (test field).map Formula.dual := by
  rw [gather, gather]
  by_cases hlisted : t.listed = true
  · rw [if_pos hlisted, if_pos hlisted, Formula.dual_grouped?, List.map_filterMap]
  · rw [if_neg hlisted, if_neg hlisted, Option.map_bind]
    rfl

/-- Membership and exclusion are dual for each field. -/
theorem membership?_dual (s : Separators) (op : Comparison) (join : Connective)
    (field value : String) : (membership? s op join field value).map Formula.dual
      = membership? s op.dual join.dual field value := by
  have hatom : Formula.dual ∘ (fun v => Formula.atom (.compare field op v))
      = fun v => .atom (.compare field op.dual v) := by
    funext v
    rw [Function.comp_apply, Formula.dual]
    rfl
  rw [membership?, Formula.dual_bare?, List.map_map, hatom]
  rfl

/-- A conjunction and its dual bind the same arguments. -/
theorem Formula.arguments_dual (d : Dialect) (term : Option Formula) :
    (conjunction d (term.map dual).toList).arguments = (conjunction d term.toList).arguments := by
  rw [arguments_conjunction, arguments_conjunction, atomsOf_eq_flatMap, atomsOf_eq_flatMap]
  cases term with
  | none => rfl
  | some f =>
    rw [Option.map_some, Option.toList_some, Option.toList_some, List.flatMap_singleton,
      List.flatMap_singleton, atoms_dual, List.filterMap_map]
    exact List.filterMap_congr fun a _ => a.argument?_dual d

/-! ## Membership and exclusion -/

namespace Condition

variable {s : Separators} {c : Condition}

/-- What a condition that asks for membership says is made of equalities. -/
theorem atoms_of_oneOf (asks : c.operator = .oneOf) {f : Formula}
    (h : c.formula? s = .ok (some f)) : ∀ a ∈ f.atoms, ∃ field x, a = .compare field .eq x := by
  intro a ha
  have hshape : c.operator.shape = .membership .eq .or := by
    rw [asks]
    rfl
  rw [formula?_of_tests fun field => testOf?_of_membership hshape field] at h
  obtain ⟨field, -, g, hg, ha⟩ := Targets.exists_test_of_gather (Except.ok.inj h) ha
  cases hblank : c.valueIsBlank with
  | true =>
    rw [hblank] at hg
    cases hg
  | false =>
    rw [hblank] at hg
    rw [atoms_of_membership? hg] at ha
    obtain ⟨x, -, rfl⟩ := List.mem_map.1 ha
    exact ⟨field, x, rfl⟩

/-- Where the same fields are targeted under dual connectives, what excludes is the dual of what
    asks for membership. -/
theorem formula?_noneOf {c' : Condition} (asks : c.operator = .oneOf)
    (excludes : c'.operator = .noneOf) (value : c'.value = c.value)
    (targets : c'.targets s = { c.targets s with join := (c.targets s).join.dual }) :
    ∃ term, c.formula? s = .ok term ∧ c'.formula? s = .ok (term.map Formula.dual) := by
  have hasks : c.operator.shape = .membership .eq .or := by
    rw [asks]
    rfl
  have hexcludes : c'.operator.shape = .membership .ne .and := by
    rw [excludes]
    rfl
  refine ⟨_, formula?_of_tests fun field => testOf?_of_membership hasks field, ?_⟩
  rw [Targets.gather_dual, ← targets]
  refine formula?_of_tests fun field => ?_
  rw [testOf?_of_membership hexcludes field, valueIsBlank, value, ← valueIsBlank]
  cases c.valueIsBlank with
  | true => rfl
  | false =>
    show Except.ok (membership? s .ne .and field c.value)
      = .ok ((membership? s .eq .or field c.value).map Formula.dual)
    rw [membership?_dual]
    rfl

end Condition

namespace Separators

variable {s : Separators}

/-- A field text behind the marker of a connective. -/
def mark (s : Separators) (join : Connective) (fields : String) : String :=
  join.word ++ s.value.toString ++ fields

theorem readMarker_mark (valid : s.validate = .ok ()) (join : Connective) (fields : String) :
    s.readMarker (s.mark join fields) = (join, fields) := by
  have spells : join.IsMarker join.word.toList := by
    cases join with
    | or => exact .cons (.inl rfl) (.cons (.inl rfl) .nil)
    | and => exact .cons (.inl rfl) (.cons (.inl rfl) (.cons (.inl rfl) .nil))
  have pads : Text.Pads join.word join.word := ⟨"", "", rfl, rfl, by simp⟩
  exact readMarker_marked valid spells pads fields

/-- Behind dual markers stand the same targets, under dual connectives. -/
theorem targets_mark_dual (valid : s.validate = .ok ()) (join : Connective) (fields : String) :
    s.targets (s.mark join.dual fields) = { s.targets (s.mark join fields) with
      join := (s.targets (s.mark join fields)).join.dual } := by
  rw [targets, targets, readMarker_mark valid, readMarker_mark valid]
  by_cases hlists : s.listsFields fields = true
  · simp only [if_pos hlists]
  · simp only [if_neg hlists]

/-- **Exclusion is dual to membership.**  To ask for none of the packed values behind one marker is
    to ask for one of them behind the other marker, with the connectives swapped at both levels, and
    equality with its negation; there is no formula for the one just where there is none for the
    other.  So the formulas have opposite values wherever each inequality is the negation of its
    equality, and both bind the same arguments in the same order, in both dialects. -/
theorem noneOf_dual_oneOf (valid : s.validate = .ok ()) (join : Connective)
    (fields value : String) (skip : Bool) :
    let among : Condition := ⟨s.mark join fields, value, .oneOf, skip⟩
    let outside : Condition := ⟨s.mark join.dual fields, value, .noneOf, skip⟩
    ∃ term, among.formula? s = .ok term ∧ outside.formula? s = .ok (term.map Formula.dual) ∧
      (∀ f ∈ term, ∀ v : Atom → Bool,
        (∀ field x, v (.compare field .ne x) = !v (.compare field .eq x)) →
          f.dual.eval v = !f.eval v) ∧
      ∃ arguments, ∀ d, ∃ p q, (Settings.compile ⟨s, d⟩ [among]).outcome = .ok p ∧
        (Settings.compile ⟨s, d⟩ [outside]).outcome = .ok q ∧
        p.arguments = arguments ∧ q.arguments = arguments := by
  intro among outside
  have hdual : ∃ term, among.formula? s = .ok term ∧
      outside.formula? s = .ok (term.map Formula.dual) :=
    Condition.formula?_noneOf rfl rfl rfl (targets_mark_dual valid join fields)
  obtain ⟨term, hamong, houtside⟩ := hdual
  -- all atoms are equalities: their duals are inequalities, and no dialect escapes what they bind
  have hatoms : ∀ a ∈ Formula.atomsOf term.toList, ∃ field x, a = .compare field .eq x := by
    cases term with
    | none => exact fun a ha => nomatch ha
    | some f =>
      rw [Option.toList_some, Formula.atomsOf_eq_flatMap, List.flatMap_singleton]
      exact Condition.atoms_of_oneOf rfl hamong
  refine ⟨term, hamong, houtside, ?_, ?_⟩
  · intro f hf v opposed
    refine Formula.eval_dual fun a ha => ?_
    obtain ⟨field, x, rfl⟩ := Condition.atoms_of_oneOf rfl (hf ▸ hamong) a ha
    exact opposed field x
  · refine ⟨(Formula.atomsOf term.toList).filterMap (Atom.argument? .dynamicLinq), fun d => ?_⟩
    have hsame : (Formula.conjunction d term.toList).arguments
        = (Formula.atomsOf term.toList).filterMap (Atom.argument? .dynamicLinq) := by
      rw [Formula.arguments_conjunction]
      refine List.filterMap_congr fun a ha => ?_
      obtain ⟨field, x, rfl⟩ := hatoms a ha
      cases d <;> rfl
    exact ⟨_, _, Settings.outcome_compile_singleton hamong,
      Settings.outcome_compile_singleton houtside, hsame,
      (Formula.arguments_dual d term).trans hsame⟩

/-- Two fields and two values, of which one is the value of one field: an alternative of
    alternatives holds, a conjunction of conjunctions does not. -/
theorem noneOf_dual_oneOf_listed :
    let among : Condition := ⟨({ } : Separators).mark .or "A,B", "x||y", .oneOf, true⟩
    let outside : Condition := ⟨({ } : Separators).mark .and "A,B", "x||y", .noneOf, true⟩
    let f : Formula := .junction .or true
      [.junction .or false [.atom (.compare "A" .eq "x"), .atom (.compare "A" .eq "y")],
        .junction .or false [.atom (.compare "B" .eq "x"), .atom (.compare "B" .eq "y")]]
    let g : Formula := .junction .and true
      [.junction .and false [.atom (.compare "A" .ne "x"), .atom (.compare "A" .ne "y")],
        .junction .and false [.atom (.compare "B" .ne "x"), .atom (.compare "B" .ne "y")]]
    let v : Atom → Bool
      | .compare field op x => decide (op = .eq) == decide (field = "B" ∧ x = "y")
      | _ => false
    ({ } : Separators).validate = .ok () ∧
      (∀ field x, v (.compare field .ne x) = !v (.compare field .eq x)) ∧
      among.formula? { } = .ok (some f) ∧ outside.formula? { } = .ok (some g) ∧
      f.eval v = true ∧ g.eval v = false ∧
      ∃ p q, (Settings.compile ⟨{ }, .postgres⟩ [among]).outcome = .ok p ∧
        (Settings.compile ⟨{ }, .postgres⟩ [outside]).outcome = .ok q ∧
        p.arguments = q.arguments := by
  intro among outside f g v
  have valid : ({ } : Separators).validate = .ok () := by decide +kernel
  have opposed : ∀ field x, v (.compare field .ne x) = !v (.compare field .eq x) := by
    intro field x
    show (false == _) = !(true == _)
    rw [Bool.false_beq, Bool.true_beq]
  have hmark : ({ } : Separators).mark .or "A,B" = "or|A,B" := by decide
  have hamong : among.formula? { } = .ok (some f) := by
    show Condition.formula? { } ⟨({ } : Separators).mark .or "A,B", "x||y", .oneOf, true⟩ = _
    rw [hmark]
    rfl
  obtain ⟨term, hterm, hdual, heval, arguments, hcompile⟩ :=
    noneOf_dual_oneOf valid .or "A,B" "x||y" true
  obtain rfl : some f = term := Except.ok.inj (hamong.symm.trans hterm)
  obtain ⟨p, q, hp, hq, hpargs, hqargs⟩ := hcompile .postgres
  have hg : f.dual = g := by rfl
  have hf : f.eval v = true := by decide
  have hopposite : g.eval v = !f.eval v := hg ▸ heval f rfl v opposed
  refine ⟨valid, opposed, hamong, hg ▸ hdual, hf, ?_, p, q, hp, hq, hpargs.trans hqargs.symm⟩
  rw [hopposite, hf]
  rfl

end Separators

end FilterPlan
