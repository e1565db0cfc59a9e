/-
  Lists of conditions one behind the other.

  1. **Terms** — the filter of a list is the conjunction of its terms (`outcome_compile_terms`), and
     the terms of two lists in a row are those of the first and then those of the second.  A
     condition without a field has no term, so it need not be left out first.
  2. **Conjunctions** — terms behind other terms are written behind the connective, their
     placeholders numbered on from the arguments that are held by then.  A conjunction is empty for
     no terms only.
  3. **The crux (`compile_append`)** — so compiling goes through `++`: the first failure is that of
     the whole, the arguments are appended, and the connective stands where there is something on
     both sides of it.
-/
import FilterPlan.Proofs.Condition.Targets
import FilterPlan.Proofs.Expression.Dialects

namespace FilterPlan

/-! ## Terms -/

/-- A condition that has no target says nothing, whatever its operator and its value. -/
theorem Condition.formula?_of_fields_eq_nil {s : Separators} {c : Condition}
    (hfields : (c.targets s).fields = []) : c.formula? s = .ok none := by
  rw [formula?, hfields]
  by_cases hlisted : (c.targets s).listed = true
  · rw [if_pos hlisted]
    rfl
  · rw [if_neg hlisted]

theorem Condition.formula?_of_fieldIsBlank {s : Separators} {c : Condition}
    (blank : c.fieldIsBlank = true) : c.formula? s = .ok none :=
  formula?_of_fields_eq_nil (Separators.fields_of_blank blank)

namespace Separators

variable {s : Separators}

/-- The terms of a list are those of its head, if it has one, and those of the rest. -/
theorem outcome_terms_cons (s : Separators) (c : Condition) (rest : List Condition) :
    (s.terms (c :: rest)).outcome = (c.formula? s).bind fun term =>
      (s.terms rest).outcome.map fun terms => term.toList ++ terms := by
  rw [terms]
  cases c.formula? s with
  | error e => rfl
  | ok term =>
    cases term with
    | none =>
      rw [Journaled.outcome_bind, Journaled.outcome_report]
      exact (congrFun Except.map_id _).symm
    | some term =>
      rw [Journaled.outcome_bind]
      show (s.terms rest).outcome.bind _ = (s.terms rest).outcome.map _
      cases (s.terms rest).outcome <;> rfl

/-- **Terms in a row.**  Two lists have the terms of the first and then those of the second, and
    the first failure is that of both. -/
theorem outcome_terms_append (s : Separators) (xs ys : List Condition) :
    (s.terms (xs ++ ys)).outcome = (s.terms xs).outcome.bind fun terms =>
      (s.terms ys).outcome.map fun others => terms ++ others := by
  induction xs with
  | nil => exact (congrFun Except.map_id _).symm
  | cons c xs ih =>
    rw [List.cons_append, outcome_terms_cons, outcome_terms_cons, ih]
    cases c.formula? s with
    | error e => rfl
    | ok term =>
      cases (s.terms xs).outcome with
      | error e => rfl
      | ok terms =>
        cases (s.terms ys).outcome with
        | error e => rfl
        | ok others =>
          show Except.ok (term.toList ++ (terms ++ others)) = .ok (term.toList ++ terms ++ others)
          rw [List.append_assoc]

/-- Leaving out the conditions without a field changes no terms. -/
theorem outcome_terms_filter (s : Separators) (conditions : List Condition) :
    (s.terms (conditions.filter fun c => !c.fieldIsBlank)).outcome
      = (s.terms conditions).outcome := by
  induction conditions with
  | nil => rfl
  | cons c rest ih =>
    by_cases blank : c.fieldIsBlank = true
    · rw [List.filter_cons_of_neg (by simp [blank]), ih, outcome_terms_cons,
        Condition.formula?_of_fieldIsBlank blank]
      exact (congrFun Except.map_id _).symm
    · rw [List.filter_cons_of_pos (by simpa using blank), outcome_terms_cons, outcome_terms_cons,
        ih]

/-- The formula of a list groups its terms under AND. -/
theorem outcome_formula?_terms (s : Separators) (conditions : List Condition) :
    (s.formula? conditions).outcome
      = (s.terms conditions).outcome.map (Formula.grouped? .and) := by
  rw [formula?, Journaled.outcome_bind, outcome_terms_filter]
  cases (s.terms conditions).outcome <;> rfl

/-- There are terms in every junction of a term. -/
theorem isWhole_of_mem_terms {conditions : List Condition} {terms : List Formula}
    (h : (s.terms conditions).outcome = .ok terms) : ∀ term ∈ terms, term.isWhole = true := by
  rw [outcome_terms] at h
  obtain ⟨tests, htests, rfl⟩ := exists_of_map_eq_ok h
  have hterms := testsOnly_of_mapM (fun c _ f => Condition.testsOnly_of_formula?) htests
  exact fun term hterm => (hterms term hterm).whole

end Separators

/-! ## Conjunctions -/

namespace Formula

/-- The text and the arguments of terms under AND; nothing for no terms. -/
def conjunction (d : Dialect) (terms : List Formula) : Predicate :=
  ((grouped? .and terms).map (predicate d)).getD { }

theorem conjunction_cons (d : Dialect) (term : Formula) (rest : List Formula) :
    conjunction d (term :: rest) = predicate d (.junction .and true (term :: rest)) := rfl

/-- The connective stands between two stretches of terms. -/
theorem joined_append {d : Dialect} {op : Connective} {grouped : Bool} {terms others : List Formula}
    (hterms : terms ≠ []) (hothers : others ≠ []) :
    joined d op grouped (terms ++ others) = joined d op grouped terms
      ++ .verbatim (" " ++ d.connective op ++ " ") :: joined d op grouped others := by
  -- the connective comes in behind the last of the terms, where the others begin
  induction terms with
  | nil => exact absurd rfl hterms
  | cons term rest ih =>
    cases rest with
    | nil =>
      obtain ⟨other, others, rfl⟩ := List.exists_cons_of_ne_nil hothers
      rw [List.singleton_append, joined, joined]
    | cons next rest =>
      have hrest := ih (List.cons_ne_nil next rest)
      rw [List.cons_append] at hrest
      rw [List.cons_append, List.cons_append, joined, joined, hrest, List.append_assoc,
        List.cons_append]

/-- **Conjunctions in a row.**  Terms behind other terms are written as by a draft that holds the
    arguments of those, with the connective in between. -/
theorem expression_conjunction_append (d : Dialect) {terms others : List Formula}
    (hterms : terms ≠ []) (hothers : others ≠ []) :
    (conjunction d (terms ++ others)).expression =
      (conjunction d terms).expression ++ (" " ++ d.connective .and ++ " ")
        ++ (({ arguments := (conjunction d terms).arguments } : Draft).push d
          (template d (.junction .and true others))).text := by
  have hjoined : joined d .and true (terms ++ others) = joined d .and true terms
      ++ .verbatim (" " ++ d.connective .and ++ " ") :: joined d .and true others :=
    joined_append hterms hothers
  obtain ⟨term, terms, rfl⟩ := List.exists_cons_of_ne_nil hterms
  rw [List.cons_append] at hjoined
  rw [List.cons_append, conjunction_cons, conjunction_cons, predicate_eq, predicate_eq, template,
    template, template, hjoined, Draft.push_eq, Template.text_append, Template.text,
    String.empty_append, Nat.zero_add, ← String.append_assoc]

/-- A conjunction binds what the atoms of its terms bind. -/
theorem arguments_conjunction (d : Dialect) (terms : List Formula) :
    (conjunction d terms).arguments = (atomsOf terms).filterMap (Atom.argument? d) := by
  cases terms with
  | nil => rfl
  | cons term rest => rw [conjunction_cons, arguments_predicate, atoms]

theorem arguments_conjunction_append (d : Dialect) (terms others : List Formula) :
    (conjunction d (terms ++ others)).arguments
      = (conjunction d terms).arguments ++ (conjunction d others).arguments := by
  rw [arguments_conjunction, arguments_conjunction, arguments_conjunction, atomsOf_eq_flatMap,
    atomsOf_eq_flatMap, atomsOf_eq_flatMap, List.flatMap_append, List.filterMap_append]

/-- A conjunction is empty for no terms only. -/
theorem isEmpty_conjunction {d : Dialect} {terms : List Formula}
    (whole : ∀ term ∈ terms, term.isWhole = true) :
    (conjunction d terms).isEmpty = terms.isEmpty := by
  cases terms with
  | nil => rfl
  | cons term rest =>
    rw [conjunction_cons, isEmpty_predicate _ (by simpa [isWhole, areWhole_iff] using whole)]
    rfl

end Formula

/-! ## Lists -/

namespace Settings

variable {s : Settings}

/-- A list of conditions is compiled to the conjunction of its terms. -/
theorem outcome_compile_terms (s : Settings) (conditions : List Condition) :
    (s.compile conditions).outcome
      = (s.separators.terms conditions).outcome.map (Formula.conjunction s.dialect) := by
  rw [outcome_compile, Separators.outcome_formula?_terms]
  cases (s.separators.terms conditions).outcome <;> rfl

/-- Two lists in a row are compiled to the conjunction of all their terms. -/
theorem outcome_compile_append (s : Settings) (xs ys : List Condition) :
    (s.compile (xs ++ ys)).outcome = (s.separators.terms xs).outcome.bind fun terms =>
      (s.separators.terms ys).outcome.map fun others =>
        Formula.conjunction s.dialect (terms ++ others) := by
  rw [outcome_compile_terms, Separators.outcome_terms_append]
  cases (s.separators.terms xs).outcome with
  | error e => rfl
  | ok terms => cases (s.separators.terms ys).outcome <;> rfl

/-- A condition by itself is compiled to its formula, if it has one. -/
theorem outcome_compile_singleton {c : Condition} {term : Option Formula}
    (h : c.formula? s.separators = .ok term) :
    (s.compile [c]).outcome = .ok (Formula.conjunction s.dialect term.toList) := by
  rw [outcome_compile_terms, Separators.outcome_terms_cons, h]
  show Except.ok (Formula.conjunction s.dialect (term.toList ++ [])) = _
  rw [List.append_nil]

/-- What is compiled comes from terms, and it is empty where there are none. -/
theorem exists_terms_of_compile {conditions : List Condition} {p : Predicate}
    (h : (s.compile conditions).outcome = .ok p) :
    ∃ terms, (s.separators.terms conditions).outcome = .ok terms ∧
      p = Formula.conjunction s.dialect terms ∧ p.isEmpty = terms.isEmpty := by
  rw [outcome_compile_terms] at h
  obtain ⟨terms, hterms, rfl⟩ := exists_of_map_eq_ok h
  exact ⟨terms, hterms, rfl,
    Formula.isEmpty_conjunction (Separators.isWhole_of_mem_terms hterms)⟩

/-- What fails to compile fails at its terms. -/
theorem terms_of_compile_error {conditions : List Condition} {e : MalformedRange}
    (h : (s.compile conditions).outcome = .error e) :
    (s.separators.terms conditions).outcome = .error e := by
  rw [outcome_compile_terms] at h
  cases hterms : (s.separators.terms conditions).outcome with
  | error e' =>
    rw [hterms] at h
    rw [Except.error.inj h]
  | ok terms =>
    rw [hterms] at h
    cases h

/-- **Nothing in between.**  A condition that gives no filter by itself can stand anywhere in a list
    and change nothing. -/
theorem compile_insert {c : Condition} {p : Predicate} (h : (s.compile [c]).outcome = .ok p)
    (empty : p.isEmpty = true) (xs ys : List Condition) :
    (s.compile (xs ++ c :: ys)).outcome = (s.compile (xs ++ ys)).outcome := by
  obtain ⟨terms, hterms, -, hempty⟩ := exists_terms_of_compile h
  have hnone : terms = [] := by
    rw [← List.isEmpty_iff, ← hempty, empty]
  have hrest : (s.separators.terms (c :: ys)).outcome = (s.separators.terms ys).outcome := by
    rw [← List.singleton_append, Separators.outcome_terms_append, hterms, hnone]
    exact congrFun Except.map_id _
  rw [outcome_compile_terms, outcome_compile_terms, Separators.outcome_terms_append,
    Separators.outcome_terms_append, hrest]

/-- **Compiling goes through `++`.**  Two lists in a row fail as the first of them that fails.
    Otherwise their arguments are appended, and so are their texts: with the connective in between,
    and the second text as it is written where the arguments of the first are held, if both lists
    ask for something; otherwise the text is that of the one that does.  A condition that gives no
    filter by itself changes nothing wherever it stands. -/
theorem compile_append (s : Settings) (xs ys : List Condition) :
    (∀ e, (s.compile xs).outcome = .error e → (s.compile (xs ++ ys)).outcome = .error e) ∧
    (∀ p e, (s.compile xs).outcome = .ok p → (s.compile ys).outcome = .error e →
      (s.compile (xs ++ ys)).outcome = .error e) ∧
    (∀ p q, (s.compile xs).outcome = .ok p → (s.compile ys).outcome = .ok q →
      ∃ r, (s.compile (xs ++ ys)).outcome = .ok r ∧ r.arguments = p.arguments ++ q.arguments ∧
        (q.isEmpty = true → r.expression = p.expression) ∧
        (p.isEmpty = true → r.expression = q.expression) ∧
        (p.isEmpty = false → q.isEmpty = false →
          ∃ f, (s.separators.formula? ys).outcome = .ok (some f) ∧
            r.expression = p.expression ++ (" " ++ s.dialect.connective .and ++ " ")
              ++ (({ arguments := p.arguments } : Draft).push s.dialect
                (f.template s.dialect)).text)) ∧
    (∀ c p, (s.compile [c]).outcome = .ok p → p.isEmpty = true →
      (s.compile (xs ++ c :: ys)).outcome = (s.compile (xs ++ ys)).outcome) := by
  refine ⟨?_, ?_, ?_, fun c p h empty => compile_insert h empty xs ys⟩
  · intro e h
    rw [outcome_compile_append, terms_of_compile_error h]
    rfl
  · intro p e hp h
    obtain ⟨terms, hterms, -, -⟩ := exists_terms_of_compile hp
    rw [outcome_compile_append, hterms, terms_of_compile_error h]
    rfl
  · intro p q hp hq
    obtain ⟨terms, hterms, rfl, hpempty⟩ := exists_terms_of_compile hp
    obtain ⟨others, hothers, rfl, hqempty⟩ := exists_terms_of_compile hq
    have hboth : (s.compile (xs ++ ys)).outcome
        = .ok (Formula.conjunction s.dialect (terms ++ others)) := by
      rw [outcome_compile_append, hterms, hothers]
      rfl
    refine ⟨_, hboth, Formula.arguments_conjunction_append _ _ _, ?_, ?_, ?_⟩
    · intro empty
      rw [List.isEmpty_iff.1 (hqempty.symm.trans empty), List.append_nil]
    · intro empty
      rw [List.isEmpty_iff.1 (hpempty.symm.trans empty), List.nil_append]
    · intro hp' hq'
      have hterms' : terms ≠ [] := by
        rw [← List.isEmpty_eq_false_iff, ← hpempty, hp']
      have hothers' : others ≠ [] := by
        rw [← List.isEmpty_eq_false_iff, ← hqempty, hq']
      refine ⟨.junction .and true others, ?_,
        Formula.expression_conjunction_append _ hterms' hothers'⟩
      rw [Separators.outcome_formula?_terms, hothers]
      obtain ⟨other, others, rfl⟩ := List.exists_cons_of_ne_nil hothers'
      rfl

/-- The second list is written where an argument is held already, and the condition in it that has
    no value leaves no trace. -/
theorem compile_append_numbered :
    let s : Settings := ⟨{ }, .postgres⟩
    let xs : List Condition := [⟨"A", "1", .equal, true⟩]
    let ys : List Condition := [⟨"B", " ", .equal, true⟩, ⟨"C", "x|y", .oneOf, true⟩]
    ∃ p q r, (s.compile xs).outcome = .ok p ∧ p.expression = "(\"A\" = $1)" ∧
      (s.compile ys).outcome = .ok q ∧ q.expression = "(\"C\" = $1 OR \"C\" = $2)" ∧
      (s.compile (xs ++ ys)).outcome = .ok r ∧ r.arguments = ["1", "x", "y"] ∧
      r.expression = "(\"A\" = $1) AND (\"C\" = $2 OR \"C\" = $3)" := by
  intro s xs ys
  have hp : (s.compile xs).outcome = .ok ⟨"(\"A\" = $1)", ["1"]⟩ := by decide
  have hq : (s.compile ys).outcome = .ok ⟨"(\"C\" = $1 OR \"C\" = $2)", ["x", "y"]⟩ := by decide
  obtain ⟨-, -, happend, -⟩ := compile_append s xs ys
  obtain ⟨r, hr, harguments, -, -, htext⟩ := happend _ _ hp hq
  obtain ⟨f, hf, hexpression⟩ := htext rfl rfl
  have hformula : (s.separators.formula? ys).outcome = .ok (some (.junction .and true
      [.junction .or false [.atom (.compare "C" .eq "x"), .atom (.compare "C" .eq "y")]])) := rfl
  obtain rfl := Option.some.inj (Except.ok.inj (hformula.symm.trans hf))
  exact ⟨_, _, r, hp, rfl, hq, rfl, hr, harguments, hexpression.trans (by decide)⟩

end Settings

end FilterPlan
