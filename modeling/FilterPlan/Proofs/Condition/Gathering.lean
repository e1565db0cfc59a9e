/-
  Conditions of which every test can be made.

  1. **Gathering** — `groupOf` makes the tests of a list in turn, and `Targets.gather` puts those of
     the targets together.  Where no test fails, that is the formula of the condition
     (`formula?_of_tests`), and its atoms are those of the tests, field by field.
  2. **Packed values** — a membership test never fails, and a range does not where two bounds are
     packed.
  3. **The crux (`bindsValues`)** — either way the test of a field binds the packed values, all
     of them and in order, whichever field it is.
-/
import FilterPlan.Proofs.Condition.Meaning
import FilterPlan.Proofs.Condition.Values
import FilterPlan.Proofs.Condition.Appending

namespace FilterPlan

/-! ## Gathering -/

/-- The tests of fields, made in turn and grouped. -/
def groupOf (join : Connective) (test : String → Except MalformedRange (Option Formula))
    (fields : List String) : Except MalformedRange (Option Formula) :=
  (fields.mapM test).map fun terms => Formula.grouped? join (terms.filterMap id)

/-- Tests of which none fails are grouped as they are. -/
theorem groupOf_of_tests {join : Connective} {fields : List String}
    {made : String → Except MalformedRange (Option Formula)} {test : String → Option Formula}
    (h : ∀ field, made field = .ok (test field)) :
    groupOf join made fields = .ok (Formula.grouped? join (fields.filterMap test)) := by
  rw [groupOf, mapM_eq_ok_map fun field _ => h field]
  show Except.ok (Formula.grouped? join ((fields.map test).filterMap id)) = _
  rw [List.filterMap_map]
  rfl

/-- The tests of the targets together: those of a list that there are, grouped under its connective,
    and the test of a single field as it is. -/
def Targets.gather (t : Targets) (test : String → Option Formula) : Option Formula :=
  if t.listed then Formula.grouped? t.join (t.fields.filterMap test)
  else t.fields.head?.bind test

/-- **Gathered tests.**  A condition of which no test fails has the formula that gathers them. -/
theorem Condition.formula?_of_tests {s : Separators} {c : Condition}
    {test : String → Option Formula} (h : ∀ field, c.testOf? s field = .ok (test field)) :
    c.formula? s = .ok ((c.targets s).gather test) := by
  rw [formula?, Targets.gather]
  by_cases hlisted : (c.targets s).listed = true
  · rw [if_pos hlisted, if_pos hlisted]
    exact groupOf_of_tests h
  · rw [if_neg hlisted, if_neg hlisted]
    cases (c.targets s).fields with
    | nil => rfl
    | cons field rest => exact h field

namespace Formula

theorem atoms_of_grouped? {op : Connective} {terms : List Formula} {f : Formula}
    (h : grouped? op terms = some f) : f.atoms = terms.flatMap atoms := by
  cases terms with
  | nil => cases h
  | cons term rest => rw [← Option.some.inj h, atoms, atomsOf_eq_flatMap]

theorem atoms_of_bare? {op : Connective} {terms : List Formula} {f : Formula}
    (h : bare? op terms = some f) : f.atoms = terms.flatMap atoms := by
  cases terms with
  | nil => cases h
  | cons term rest => rw [← Option.some.inj h, atoms, atomsOf_eq_flatMap]

end Formula

namespace Targets

variable {t : Targets} {f : Formula}

/-- Each atom of gathered tests is one of a target's test. -/
theorem exists_test_of_gather {test : String → Option Formula} (h : t.gather test = some f)
    {a : Atom} (ha : a ∈ f.atoms) : ∃ field ∈ t.fields, ∃ g ∈ test field, a ∈ g.atoms := by
  rw [gather] at h
  split at h
  · rw [Formula.atoms_of_grouped? h] at ha
    obtain ⟨g, hg, ha⟩ := List.mem_flatMap.1 ha
    obtain ⟨field, hfield, hmade⟩ := List.mem_filterMap.1 hg
    exact ⟨field, hfield, g, hmade, ha⟩
  · obtain ⟨field, hfield, hmade⟩ := Option.bind_eq_some_iff.1 h
    exact ⟨field, List.mem_of_mem_head? hfield, f, hmade, ha⟩

/-- Where every field is tested, the atoms of all tests are there, field by field. -/
theorem exists_gather {test : String → Formula} (nonempty : t.fields ≠ [])
    (single : t.listed = false → t.fields.length = 1) :
    ∃ f, t.gather (fun field => some (test field)) = some f ∧
      f.atoms = t.fields.flatMap fun field => (test field).atoms := by
  obtain ⟨field, rest, hfields⟩ := List.exists_cons_of_ne_nil nonempty
  by_cases hlisted : t.listed = true
  · rw [gather, if_pos hlisted, List.filterMap_eq_map', hfields, List.map_cons]
    refine ⟨_, rfl, ?_⟩
    rw [Formula.atoms, Formula.atomsOf_eq_flatMap, ← List.map_cons, List.flatMap_map]
  · have hrest : rest = [] := by
      have hlength := single (by simpa using hlisted)
      rw [hfields, List.length_cons] at hlength
      exact List.eq_nil_of_length_eq_zero (by omega)
    rw [gather, if_neg hlisted, hfields, hrest]
    exact ⟨_, rfl, by rw [List.flatMap_singleton]⟩

end Targets

/-! ## Packed values -/

theorem Operator.packs_of_packsBounds {op : Operator} (h : op.packsBounds = true) :
    op.packs = true := by
  revert h
  cases op <;> decide

section

variable {s : Separators} {c : Condition}

/-- A membership test never fails; a blank value leaves nothing to test for. -/
theorem Condition.testOf?_of_membership {op : Comparison} {join : Connective}
    (shape : c.operator.shape = .membership op join) (field : String) :
    c.testOf? s field
      = .ok (if c.valueIsBlank then none else membership? s op join field c.value) := by
  have hnull : c.operator.nullTest? = none := by
    cases hop : c.operator with
    | oneOf | noneOf => rfl
    | equal | notEqual | greater | greaterEqual | less | lessEqual | startsWith | endsWith
    | contains | between | betweenEqualStart | betweenEqualEnd | betweenEqualStartAndEnd =>
      rw [hop] at shape
      cases shape
  rw [testOf?, shape, hnull]
  cases c.valueIsBlank with
  | false => rfl
  | true => cases c.skipIfBlank <;> rfl

/-- A membership test compares its field with each of the packed values. -/
theorem atoms_of_membership? {op : Comparison} {join : Connective} {field value : String}
    {f : Formula} (h : membership? s op join field value = some f) :
    f.atoms = (s.valuesIn value).map fun v => .compare field op v := by
  rw [Formula.atoms_of_bare? h, List.flatMap_map]
  induction s.valuesIn value with
  | nil => rfl
  | cons v rest ih =>
    rw [List.flatMap_cons, ih, List.map_cons, Formula.atoms, List.singleton_append]

/-- The test of each field can be made and binds the packed values. -/
def Condition.BindsValues (s : Separators) (c : Condition) : Prop :=
  ∃ test : String → Formula, ∀ field, c.testOf? s field = .ok (some (test field)) ∧
    ∀ d, (test field).atoms.filterMap (Atom.argument? d) = s.valuesIn c.value

theorem Condition.bindsValues_of_membership {op : Comparison} {join : Connective}
    (shape : c.operator.shape = .membership op join) (value : c.valueIsBlank = false)
    (nonempty : s.valuesIn c.value ≠ []) : c.BindsValues s := by
  refine ⟨fun field => .junction join false
    ((s.valuesIn c.value).map fun v => .atom (.compare field op v)), fun field => ?_⟩
  have hmade : membership? s op join field c.value = some (.junction join false
      ((s.valuesIn c.value).map fun v => .atom (.compare field op v))) := by
    rw [membership?_eq, if_neg nonempty]
  refine ⟨by rw [testOf?_of_membership shape, value, hmade]; rfl, fun d => ?_⟩
  rw [atoms_of_membership? hmade, List.filterMap_map]
  exact List.filterMap_some

theorem Condition.bindsValues_of_range {lower upper : Comparison}
    (shape : c.operator.shape = .range lower upper) (value : c.valueIsBlank = false)
    (two : (s.valuesIn c.value).length = 2) : c.BindsValues s := by
  obtain ⟨start, stop, hvalues⟩ := List.length_eq_two.1 two
  refine ⟨fun field => .junction .and false
    [.atom (.compare field lower start), .atom (.compare field upper stop)], fun field => ?_⟩
  refine ⟨?_, fun d => ?_⟩
  · rw [testOf?, value, shape]
    show rangeTest s lower upper field c.value = _
    rw [rangeTest, hvalues]
    rfl
  · rw [hvalues]
    simp [Formula.atoms, Formula.atomsOf, Atom.argument?]

/-- **Packed values are bound.**  Where an operator packs values, as many as it takes, the test of
    each field can be made and binds them all. -/
theorem Condition.bindsValues (packs : c.operator.packs = true) (value : c.valueIsBlank = false)
    (nonempty : s.valuesIn c.value ≠ [])
    (bounds : c.operator.packsBounds = true → (s.valuesIn c.value).length = 2) :
    c.BindsValues s := by
  cases hop : c.operator with
  | oneOf | noneOf => exact bindsValues_of_membership (by rw [hop]; rfl) value nonempty
  | between | betweenEqualStart | betweenEqualEnd | betweenEqualStartAndEnd =>
    exact bindsValues_of_range (by rw [hop]; rfl) value (bounds (by rw [hop]; rfl))
  | equal | notEqual | greater | greaterEqual | less | lessEqual | startsWith | endsWith
  | contains => rw [hop] at packs; cases packs

end

end FilterPlan
