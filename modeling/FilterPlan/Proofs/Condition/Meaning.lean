/-
  What a list of conditions means.

  1. **Demands** — `Condition.demand` is what a condition asks of one field, operator by operator:
     nothing, or a proposition about atoms.
  2. **Meaning** — `Condition.Means` joins the demands on all fields that the condition names;
     where nothing is demanded, nothing is imposed.
  3. **The crux (`eval_formula_iff_means`)** — the formula of a list of conditions holds exactly
     when every condition means something true.  Each condition is settled on its own
     (`formula?_eval_iff`), so the list needs one induction and no more.
-/
import FilterPlan.Proofs.Condition.Targets
import FilterPlan.Proofs.Condition.Terms
import FilterPlan.Proofs.Formula.Truth

namespace FilterPlan

/-! ## Demands -/

namespace Condition

/-- What the condition asks of one field, given the values that it packs: nothing, or a proposition
    about the atoms that hold. -/
def demand (v : Atom → Bool) (c : Condition) (values : List String) (field : String) :
    Option Prop :=
  let holds (op : Comparison) (value : String) : Prop := v (.compare field op value) = true
  let passes (test : TextTest) : Prop := v (.text field test c.value) = true
  let isNull (op : Comparison) : Prop := v (.null field op) = true
  let within (lower upper : Comparison) : Prop :=
    ∃ start stop, values = [start, stop] ∧ holds lower start ∧ holds upper stop
  if c.value.toList.all Text.isBlank = true then
    match c.skipIfBlank, c.operator with
    | false, .equal => some (isNull .eq)
    | false, .notEqual => some (isNull .ne)
    | _, _ => none
  else
    match c.operator with
    | .equal => some (holds .eq c.value)
    | .notEqual => some (holds .ne c.value)
    | .greater => some (holds .gt c.value)
    | .greaterEqual => some (holds .ge c.value)
    | .less => some (holds .lt c.value)
    | .lessEqual => some (holds .le c.value)
    | .startsWith => some (passes .startsWith)
    | .endsWith => some (passes .endsWith)
    | .contains => some (passes .contains)
    | .oneOf => if values = [] then none else some (∃ x ∈ values, holds .eq x)
    | .noneOf => if values = [] then none else some (∀ x ∈ values, holds .ne x)
    | .between => some (within .gt .lt)
    | .betweenEqualStart => some (within .ge .lt)
    | .betweenEqualEnd => some (within .gt .le)
    | .betweenEqualStartAndEnd => some (within .ge .le)

end Condition

/-- What a list of demands imposes; no demands impose nothing. -/
def Connective.Imposes (join : Connective) (demands : List Prop) : Prop :=
  demands = [] ∨
    match join with
    | .or => ∃ p ∈ demands, p
    | .and => ∀ p ∈ demands, p

/-- What a condition means, given which atoms hold. -/
def Condition.Means (s : Separators) (v : Atom → Bool) (c : Condition) : Prop :=
  ∃ join rest fields values, s.Reads c.field join rest ∧ s.Names rest fields ∧
    s.Packs c.value values ∧ join.Imposes (fields.filterMap (c.demand v values))

theorem Condition.means_iff {s : Separators} {v : Atom → Bool} {c : Condition} :
    c.Means s v ↔ (c.targets s).join.Imposes
      ((c.targets s).fields.filterMap (c.demand v (s.valuesIn c.value))) := by
  constructor
  · rintro ⟨join, rest, fields, values, hreads, hnames, hpacks, h⟩
    obtain ⟨rfl, rfl⟩ := Separators.targets_iff.1 ⟨rest, hreads, hnames⟩
    rw [Separators.packs_iff.1 hpacks] at h
    exact h
  · intro h
    obtain ⟨rest, hreads, hnames⟩ := Separators.targets_iff.2 ⟨rfl, rfl⟩
    exact ⟨_, rest, _, _, hreads, hnames, Separators.packs_iff.2 rfl, h⟩

/-! ## Demands are tested as stated -/

theorem membership?_eq {s : Separators} {op : Comparison} {join : Connective}
    {field value : String} : membership? s op join field value =
      if s.valuesIn value = [] then none
      else some (.junction join false
        ((s.valuesIn value).map fun x => .atom (.compare field op x))) := by
  rw [membership?]
  cases s.valuesIn value with
  | nil => rfl
  | cons x rest => rfl

theorem rangeTest_eq_ok {s : Separators} {lower upper : Comparison} {field value : String}
    {t : Option Formula} (h : rangeTest s lower upper field value = .ok t) :
    ∃ start stop, s.valuesIn value = [start, stop] ∧ t = some (.junction .and false
      [.atom (.compare field lower start), .atom (.compare field upper stop)]) := by
  rw [rangeTest] at h
  split at h
  · rename_i start stop hvalues
    exact ⟨start, stop, hvalues, (Except.ok.inj h).symm⟩
  · cases h

/-- A value in bounds is what the two comparisons of a range say. -/
theorem range_demand {v : Atom → Bool} {s : Separators} {lower upper : Comparison}
    {field value : String} {t : Option Formula}
    (h : rangeTest s lower upper field value = .ok t) :
    some (∃ start stop, s.valuesIn value = [start, stop] ∧
      v (.compare field lower start) = true ∧ v (.compare field upper stop) = true)
      = t.map fun f => f.eval v = true := by
  obtain ⟨start, stop, hvalues, rfl⟩ := rangeTest_eq_ok h
  rw [Option.map_some, Formula.eval_junction, Formula.evalTerms_and_iff, hvalues]
  congr 1
  apply propext
  constructor
  · rintro ⟨start', stop', heq, hlower, hupper⟩
    simp only [List.cons.injEq, and_true] at heq
    obtain ⟨rfl, rfl⟩ := heq
    simp [hlower, hupper]
  · intro hall
    refine ⟨start, stop, rfl, ?_, ?_⟩
    · simpa using hall (.atom (.compare field lower start)) (by simp)
    · simpa using hall (.atom (.compare field upper stop)) (by simp)

/-- What an operator's shape says about a value is what the condition demands. -/
theorem Condition.demand_of_value {v : Atom → Bool} {s : Separators} {c : Condition}
    {field : String} {t : Option Formula} (value : ¬ c.value.toList.all Text.isBlank = true)
    (h : c.operator.shape.test? s field c.value = .ok t) :
    c.demand v (s.valuesIn c.value) field = t.map fun f => f.eval v = true := by
  simp only [demand, if_neg value]
  cases hop : c.operator with
  | equal | notEqual | greater | greaterEqual | less | lessEqual | startsWith | endsWith
  | contains =>
    rw [hop] at h
    rw [← Except.ok.inj h]
    simp only [Option.map_some, Formula.eval_atom]
  | oneOf =>
    rw [hop] at h
    rw [← Except.ok.inj h, membership?_eq]
    by_cases hvalues : s.valuesIn c.value = []
    · simp only [if_pos hvalues, Option.map_none]
    · simp [if_neg hvalues, Formula.evalTerms_or_iff]
  | noneOf =>
    rw [hop] at h
    rw [← Except.ok.inj h, membership?_eq]
    by_cases hvalues : s.valuesIn c.value = []
    · simp only [if_pos hvalues, Option.map_none]
    · simp [if_neg hvalues, Formula.evalTerms_and_iff]
  | between | betweenEqualStart | betweenEqualEnd | betweenEqualStartAndEnd =>
    rw [hop] at h
    exact range_demand h

/-- **One field.**  A test that is made says what the condition demands, and no test is made where
    it demands nothing. -/
theorem Condition.demand_eq {v : Atom → Bool} {s : Separators} {c : Condition} {field : String}
    {t : Option Formula} (h : c.testOf? s field = .ok t) :
    c.demand v (s.valuesIn c.value) field = t.map fun f => f.eval v = true := by
  have hblank : c.valueIsBlank = c.value.toList.all Text.isBlank := rfl
  by_cases value : c.value.toList.all Text.isBlank = true
  · simp only [testOf?, hblank, value, Bool.not_true, Bool.false_eq_true, if_false] at h
    simp only [demand, if_pos value]
    by_cases hskip : c.skipIfBlank = true
    · rw [if_pos hskip] at h
      rw [← Except.ok.inj h, hskip, Option.map_none]
    · have hkept : c.skipIfBlank = false := by simpa using hskip
      rw [if_neg hskip] at h
      rw [← Except.ok.inj h, hkept]
      cases c.operator <;> rfl
  · have hvalue : c.valueIsBlank = false := by
      rw [hblank, Bool.eq_false_iff]
      exact value
    simp only [testOf?, hvalue, Bool.not_false, if_true] at h
    exact demand_of_value value h

/-! ## Conditions are joined as stated -/

/-- Demands that are terms impose what the terms say under the connective. -/
theorem imposes_map_iff {v : Atom → Bool} {join : Connective} {terms : List Formula} :
    join.Imposes (terms.map fun f => f.eval v = true) ↔
      ∀ f ∈ Formula.grouped? join terms, f.eval v = true := by
  cases terms with
  | nil => simp [Connective.Imposes, Formula.grouped?]
  | cons term rest =>
    have hgroup : ∀ P : Formula → Prop, (∀ f ∈ Formula.grouped? join (term :: rest), P f) ↔
        P (.junction join true (term :: rest)) := by
      intro P
      constructor
      · intro h
        exact h _ rfl
      · intro h f hf
        rw [← Option.some.inj hf]
        exact h
    rw [hgroup, Formula.eval_junction]
    cases join with
    | or =>
      rw [Formula.evalTerms_or_iff]
      constructor
      · rintro (h | ⟨p, hp, holds⟩)
        · cases h
        · obtain ⟨f, hf, rfl⟩ := List.mem_map.1 hp
          exact ⟨f, hf, holds⟩
      · rintro ⟨f, hf, holds⟩
        exact .inr ⟨_, List.mem_map_of_mem hf, holds⟩
    | and =>
      rw [Formula.evalTerms_and_iff]
      constructor
      · rintro (h | hall)
        · cases h
        · intro f hf
          exact hall _ (List.mem_map_of_mem hf)
      · intro hall
        refine .inr fun p hp => ?_
        obtain ⟨f, hf, rfl⟩ := List.mem_map.1 hp
        exact hall f hf

/-- A single demand is imposed as it is, under either connective. -/
theorem imposes_singleton_iff {join : Connective} {p : Prop} : join.Imposes [p] ↔ p := by
  constructor
  · rintro (h | h)
    · cases h
    · cases join with
      | or =>
        obtain ⟨q, hq, holds⟩ := h
        rw [List.mem_singleton.1 hq] at holds
        exact holds
      | and => exact h p List.mem_cons_self
  · intro h
    cases join with
    | or => exact .inr ⟨p, List.mem_cons_self, h⟩
    | and =>
      refine .inr fun q hq => ?_
      rw [List.mem_singleton.1 hq]
      exact h

namespace Condition

variable {v : Atom → Bool} {s : Separators} {c : Condition}

/-- The tests of several fields, made in turn, are what the condition demands of them. -/
theorem demands_eq {fields : List String} {tests : List (Option Formula)}
    (h : fields.mapM (c.testOf? s) = .ok tests) :
    fields.filterMap (c.demand v (s.valuesIn c.value))
      = (tests.filterMap id).map fun f => f.eval v = true := by
  have hall := forall₂_of_mapM_eq_ok h
  clear h
  induction hall with
  | nil => rfl
  | @cons field t fields tests hfield hrest ih =>
    rw [List.filterMap_cons, List.filterMap_cons, demand_eq hfield, ih]
    cases t <;> rfl

/-- **One condition.**  The formula of a condition holds exactly when what the condition means is
    true; no formula counts as one that holds. -/
theorem formula?_eval_iff {t : Option Formula} (h : c.formula? s = .ok t) :
    (∀ f ∈ t, f.eval v = true) ↔ c.Means s v := by
  rw [means_iff]
  rw [formula?] at h
  by_cases hlisted : (c.targets s).listed = true
  · simp only [if_pos hlisted] at h
    obtain ⟨tests, htests, ht⟩ := exists_of_map_eq_ok h
    rw [demands_eq htests, imposes_map_iff, ht]
  · simp only [if_neg hlisted] at h
    rcases Separators.fields_of_not_listed hlisted with hfields | ⟨field, hfields⟩
    · have hfields' : (c.targets s).fields = [] := hfields
      rw [hfields'] at h ⊢
      rw [← Except.ok.inj h]
      simp [Connective.Imposes]
    · have hfields' : (c.targets s).fields = [field] := hfields
      rw [hfields'] at h ⊢
      have htest : c.testOf? s field = .ok t := h
      cases t with
      | none =>
        have hdemand := demand_eq (v := v) htest
        rw [Option.map_none] at hdemand
        rw [List.filterMap_cons_none hdemand, List.filterMap_nil]
        simp [Connective.Imposes]
      | some f =>
        have hdemand := demand_eq (v := v) htest
        rw [Option.map_some] at hdemand
        rw [List.filterMap_cons_some hdemand, List.filterMap_nil, imposes_singleton_iff]
        simp

end Condition

/-! ## Lists of conditions -/

namespace Separators

variable {v : Atom → Bool} {s : Separators}

/-- A condition that names no field at all means something true. -/
theorem means_of_fieldIsBlank {c : Condition} (blank : c.fieldIsBlank = true) : c.Means s v := by
  have hfields : (c.targets s).fields = [] := fields_of_blank blank
  rw [Condition.means_iff, hfields]
  exact .inl rfl

/-- The terms of a list of conditions hold exactly when what each condition means is true.
    Induction on the list: the head's formula is a term, or it has none and means nothing. -/
theorem terms_eval_iff {conditions : List Condition} {tests : List (Option Formula)}
    (h : conditions.mapM (Condition.formula? s) = .ok tests) :
    (∀ f ∈ tests.filterMap id, f.eval v = true) ↔ ∀ c ∈ conditions, c.Means s v := by
  have hall := forall₂_of_mapM_eq_ok h
  clear h
  induction hall with
  | nil => simp
  | @cons c t conditions tests hc hrest ih =>
    have hmeans : (∀ f ∈ t, f.eval v = true) ↔ c.Means s v := Condition.formula?_eval_iff hc
    rw [List.forall_mem_cons, ← hmeans]
    cases t with
    | none => simpa using ih
    | some term => simpa using and_congr_right fun _ => ih

/-- **The filter means what its conditions mean.**  Where a list of conditions has a formula, or
    none, without a failure, that formula holds under just those atoms under which every one of the
    conditions means something true. -/
theorem eval_formula_iff_means {conditions : List Condition} {f? : Option Formula}
    (lowered : (s.formula? conditions).outcome = .ok f?) (v : Atom → Bool) :
    f?.all (fun f => f.eval v) = true ↔ ∀ c ∈ conditions, c.Means s v := by
  rw [outcome_formula?] at lowered
  cases htests : (conditions.filter fun c => !c.fieldIsBlank).mapM (Condition.formula? s) with
  | error e => rw [htests] at lowered; cases lowered
  | ok tests =>
    rw [htests] at lowered
    have hf : Formula.grouped? .and (tests.filterMap id) = f? := Except.ok.inj lowered
    have hall : f?.all (fun f => f.eval v) = true ↔ ∀ f ∈ tests.filterMap id, f.eval v = true := by
      rw [← hf]
      cases tests.filterMap id with
      | nil => simp [Formula.grouped?]
      | cons term rest => exact Formula.evalTerms_and_iff
    rw [hall, terms_eval_iff htests]
    -- the conditions that were left out for their blank fields mean nothing
    constructor
    · intro h c hc
      by_cases blank : c.fieldIsBlank = true
      · exact means_of_fieldIsBlank blank
      · exact h c (List.mem_filter.2 ⟨hc, by simpa using blank⟩)
    · intro h c hc
      exact h c (List.mem_filter.1 hc).1

/-- Two fields under AND, each between two bounds, and a third that is to be null. -/
theorem eval_formula_iff_means_listed :
    (({ } : Separators).formula? [⟨"And | a ,b,", "1||2", .betweenEqualStart, true⟩,
        ⟨"c", " ", .equal, false⟩]).outcome
      = .ok (some (.junction .and true [.junction .and true
          [.junction .and false [.atom (.compare "a" .ge "1"), .atom (.compare "a" .lt "2")],
            .junction .and false [.atom (.compare "b" .ge "1"), .atom (.compare "b" .lt "2")]],
          .atom (.null "c" .eq)])) ∧
    ((some (Formula.junction .and true [.junction .and true
          [.junction .and false [.atom (.compare "a" .ge "1"), .atom (.compare "a" .lt "2")],
            .junction .and false [.atom (.compare "b" .ge "1"), .atom (.compare "b" .lt "2")]],
          .atom (.null "c" .eq)])).all (fun f => f.eval fun a => a.field ≠ "b") = true ↔
      ∀ c ∈ [(⟨"And | a ,b,", "1||2", .betweenEqualStart, true⟩ : Condition),
        ⟨"c", " ", .equal, false⟩], c.Means { } fun a => a.field ≠ "b") :=
  ⟨rfl, eval_formula_iff_means rfl _⟩

end Separators

end FilterPlan
