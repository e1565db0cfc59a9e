/-
  What the formulas of conditions are made of.

  1. **Tests of fields** — `TestsOnly` holds of formulas with terms in every junction that test
     none but the given fields.  Terms are joined without a loss of it.
  2. **The crux (`testsOnly_of_formula?`)** — the formula of a list of conditions tests only what
     the conditions target.  No junction in it is one of nothing, whichever of the conditions and
     of their packed values drop out.
-/
import FilterPlan.Proofs.Condition.Terms
import FilterPlan.Proofs.Formula.Truth

namespace FilterPlan

/-! ## Tests of fields -/

namespace Formula

/-- The formula has terms in every junction and tests none but these fields. -/
structure TestsOnly (fields : List String) (f : Formula) : Prop where
  whole : f.isWhole = true
  field_mem : ∀ a ∈ f.atoms, a.field ∈ fields

variable {fields fields' : List String} {f : Formula} {terms : List Formula}

theorem TestsOnly.mono (h : f.TestsOnly fields) (hfields : fields ⊆ fields') :
    f.TestsOnly fields' :=
  ⟨h.whole, fun a ha => hfields (h.field_mem a ha)⟩

theorem testsOnly_atom {a : Atom} (h : a.field ∈ fields) : (atom a).TestsOnly fields := by
  refine ⟨rfl, fun b hb => ?_⟩
  rw [atoms] at hb
  rw [List.mem_singleton.1 hb]
  exact h

theorem testsOnly_junction (op : Connective) (grouped : Bool) (nonempty : terms ≠ [])
    (hterms : ∀ term ∈ terms, term.TestsOnly fields) :
    (junction op grouped terms).TestsOnly fields := by
  constructor
  · rw [isWhole, Bool.and_eq_true, areWhole_iff]
    exact ⟨by simpa using nonempty, fun term hterm => (hterms term hterm).whole⟩
  · intro a ha
    rw [atoms, atomsOf_eq_flatMap] at ha
    obtain ⟨term, hterm, ha⟩ := List.mem_flatMap.1 ha
    exact (hterms term hterm).field_mem a ha

theorem testsOnly_of_grouped? {op : Connective} (hterms : ∀ term ∈ terms, term.TestsOnly fields)
    (h : grouped? op terms = some f) : f.TestsOnly fields := by
  cases terms with
  | nil => cases h
  | cons term rest =>
    rw [← Option.some.inj h]
    exact testsOnly_junction op true (List.cons_ne_nil term rest) hterms

theorem testsOnly_of_bare? {op : Connective} (hterms : ∀ term ∈ terms, term.TestsOnly fields)
    (h : bare? op terms = some f) : f.TestsOnly fields := by
  cases terms with
  | nil => cases h
  | cons term rest =>
    rw [← Option.some.inj h]
    exact testsOnly_junction op false (List.cons_ne_nil term rest) hterms

end Formula

/-! ## Conditions test their targets -/

section

variable {s : Separators} {field value : String} {f : Formula}

theorem testsOnly_of_membership? {op : Comparison} {join : Connective}
    (h : membership? s op join field value = some f) : f.TestsOnly [field] := by
  refine Formula.testsOnly_of_bare? (fun term hterm => ?_) h
  obtain ⟨v, -, rfl⟩ := List.mem_map.1 hterm
  exact Formula.testsOnly_atom List.mem_cons_self

theorem testsOnly_of_rangeTest {lower upper : Comparison}
    (h : rangeTest s lower upper field value = .ok (some f)) : f.TestsOnly [field] := by
  rw [rangeTest] at h
  split at h
  · refine Formula.testsOnly_of_bare? (fun term hterm => ?_) (Except.ok.inj h)
    simp only [List.mem_cons, List.not_mem_nil, or_false] at hterm
    rcases hterm with rfl | rfl
    · exact Formula.testsOnly_atom List.mem_cons_self
    · exact Formula.testsOnly_atom List.mem_cons_self
  · cases h

/-- What an operator says about a field is said about no other. -/
theorem Operator.Shape.testsOnly_of_test? {shape : Operator.Shape}
    (h : shape.test? s field value = .ok (some f)) : f.TestsOnly [field] := by
  cases shape with
  | comparison op =>
    rw [← Option.some.inj (Except.ok.inj h)]
    exact Formula.testsOnly_atom List.mem_cons_self
  | text test =>
    rw [← Option.some.inj (Except.ok.inj h)]
    exact Formula.testsOnly_atom List.mem_cons_self
  | membership op join => exact testsOnly_of_membership? (Except.ok.inj h)
  | range lower upper => exact testsOnly_of_rangeTest h

/-- **One field.**  What a condition says about a field is said about no other. -/
theorem Condition.testsOnly_of_testOf? {c : Condition} (h : c.testOf? s field = .ok (some f)) :
    f.TestsOnly [field] := by
  rw [testOf?] at h
  split at h
  · exact Operator.Shape.testsOnly_of_test? h
  · split at h
    · cases h
    · obtain ⟨op, -, rfl⟩ := Option.map_eq_some_iff.1 (Except.ok.inj h)
      exact Formula.testsOnly_atom List.mem_cons_self

/-- Formulas made in turn test what each of them does. -/
theorem testsOnly_of_mapM {ι : Type} {k : ι → Except MalformedRange (Option Formula)}
    {target : ι → List String} {xs : List ι} {tests : List (Option Formula)}
    (hk : ∀ x ∈ xs, ∀ f, k x = .ok (some f) → f.TestsOnly (target x))
    (h : xs.mapM k = .ok tests) :
    ∀ f ∈ tests.filterMap id, f.TestsOnly (xs.flatMap target) := by
  intro f hf
  obtain ⟨t, ht, rfl⟩ := List.mem_filterMap.1 hf
  obtain ⟨x, hx, hmade⟩ := exists_of_mem_mapM h ht
  exact (hk x hx f hmade).mono fun field hfield => List.mem_flatMap.2 ⟨x, hx, hfield⟩

/-- **One condition.**  The formula of a condition tests only its targets. -/
theorem Condition.testsOnly_of_formula? {c : Condition} (h : c.formula? s = .ok (some f)) :
    f.TestsOnly (c.targets s).fields := by
  rw [formula?] at h
  by_cases hlisted : (c.targets s).listed = true
  · simp only [if_pos hlisted] at h
    obtain ⟨tests, htests, hgroup⟩ := exists_of_map_eq_ok h
    have hterms := testsOnly_of_mapM (fun field _ f => testsOnly_of_testOf?) htests
    refine (Formula.testsOnly_of_grouped? hterms hgroup).mono ?_
    rw [List.flatMap_singleton']
    exact List.Subset.refl _
  · simp only [if_neg hlisted] at h
    cases hfields : (c.targets s).fields with
    | nil => rw [hfields] at h; cases h
    | cons field rest =>
      rw [hfields] at h
      exact (testsOnly_of_testOf? h).mono (List.cons_subset_cons field (List.nil_subset rest))

/-- **Lists of conditions.**  The formula of a list of conditions tests only their targets. -/
theorem Separators.testsOnly_of_formula? {conditions : List Condition}
    (h : (s.formula? conditions).outcome = .ok (some f)) :
    f.TestsOnly (conditions.flatMap fun c => (c.targets s).fields) := by
  rw [outcome_formula?] at h
  obtain ⟨tests, htests, hgroup⟩ := exists_of_map_eq_ok h
  have hterms := testsOnly_of_mapM (fun c _ f => Condition.testsOnly_of_formula?) htests
  -- conditions without a field were left out, which only leaves fewer targets
  refine (Formula.testsOnly_of_grouped? hterms hgroup).mono fun field hfield => ?_
  obtain ⟨c, hc, hfield⟩ := List.mem_flatMap.1 hfield
  exact List.mem_flatMap.2 ⟨c, (List.mem_filter.1 hc).1, hfield⟩

end

end FilterPlan
