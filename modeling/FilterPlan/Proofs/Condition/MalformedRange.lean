/-
  Ranges without two bounds.

  1. **Live ranges** — `Misranges` holds of a condition that has to be read as a range and cannot
     be: it targets a field, its value is not blank, and the value packs one bound or three, but
     not two.
  2. **One condition** — a test fails on one field as on any other, so the first one decides and
     the rest of them does not matter (`formula?_eq_error_iff`).
  3. **The crux (`compile_error_iff`)** — a list of conditions is read in turn, so it fails as the
     first of them that misranges, and only then.
-/
import FilterPlan.Proofs.Condition.Gathering

namespace FilterPlan

/-! ## Live ranges -/

/-- The condition asks for a range that it has no two bounds for, and this is how that is
    reported: with the first of the fields, the value as it is given, and the number of bounds. -/
inductive Condition.Misranges (s : Separators) (c : Condition) : MalformedRange → Prop
  | intro {join : Connective} {rest field : String} {others bounds : List String}
    (reads : s.Reads c.field join rest) (names : s.Names rest (field :: others))
    (notBlank : ∃ x ∈ c.value.toList, Text.isBlank x = false)
    (range : c.operator ∈ [.between, .betweenEqualStart, .betweenEqualEnd,
      .betweenEqualStartAndEnd])
    (packs : s.Packs c.value bounds) (count : bounds.length ≠ 2) :
    c.Misranges s ⟨field, c.value, bounds.length⟩

/-- The value of the condition has to pack two bounds and does not. -/
def Condition.LacksBounds (s : Separators) (c : Condition) : Prop :=
  c.valueIsBlank = false ∧ c.operator.packsBounds = true ∧ (s.valuesIn c.value).length ≠ 2

theorem Operator.packsBounds_iff {op : Operator} : op.packsBounds = true ↔
    op ∈ [.between, .betweenEqualStart, .betweenEqualEnd, .betweenEqualStartAndEnd] := by
  cases op <;> decide

namespace Condition

variable {s : Separators} {c : Condition}

theorem valueIsBlank_eq_false_iff :
    c.valueIsBlank = false ↔ ∃ x ∈ c.value.toList, Text.isBlank x = false := by
  rw [valueIsBlank, Text.allBlank, List.all_eq_false]
  simp only [Bool.not_eq_true]

theorem misranges_iff {e : MalformedRange} : c.Misranges s e ↔ c.LacksBounds s ∧
    ∃ field others, (c.targets s).fields = field :: others ∧
      e = ⟨field, c.value, (s.valuesIn c.value).length⟩ := by
  constructor
  · rintro ⟨reads, names, notBlank, range, packs, count⟩
    rw [Separators.packs_iff.1 packs] at count ⊢
    obtain ⟨-, hfields⟩ := Separators.targets_iff.1 ⟨_, reads, names⟩
    exact ⟨⟨valueIsBlank_eq_false_iff.2 notBlank, Operator.packsBounds_iff.2 range, count⟩, _, _,
      hfields, rfl⟩
  · rintro ⟨⟨notBlank, range, count⟩, field, others, hfields, rfl⟩
    obtain ⟨rest, reads, names⟩ := Separators.targets_iff.2 ⟨rfl, hfields⟩
    exact .intro reads names (valueIsBlank_eq_false_iff.1 notBlank)
      (Operator.packsBounds_iff.1 range) (Separators.packs_iff.2 rfl) count

/-! ## One condition -/

theorem rangeTest_eq_error_iff {lower upper : Comparison} {field value : String}
    {e : MalformedRange} : rangeTest s lower upper field value = .error e ↔
      (s.valuesIn value).length ≠ 2 ∧ e = ⟨field, value, (s.valuesIn value).length⟩ := by
  fun_cases rangeTest s lower upper field value with
  | case1 start stop hvalues => simp [hvalues]
  | case2 hvalues =>
    have hcount : (s.valuesIn value).length ≠ 2 := by
      intro htwo
      obtain ⟨start, stop, hpair⟩ := List.length_eq_two.1 htwo
      exact hvalues start stop hpair
    constructor
    · intro h
      exact ⟨hcount, (Except.error.inj h).symm⟩
    · rintro ⟨-, rfl⟩
      rfl

/-- **One field.**  Its test fails where the bounds are lacking, whichever field it is. -/
theorem testOf?_eq_error_iff {field : String} {e : MalformedRange} :
    c.testOf? s field = .error e ↔
      c.LacksBounds s ∧ e = ⟨field, c.value, (s.valuesIn c.value).length⟩ := by
  rw [testOf?, LacksBounds]
  cases hblank : c.valueIsBlank with
  | true => cases c.skipIfBlank <;> simp
  | false =>
    show c.operator.shape.test? s field c.value = .error e ↔ _
    cases hop : c.operator with
    | equal | notEqual | greater | greaterEqual | less | lessEqual | startsWith | endsWith
    | contains | oneOf | noneOf =>
      constructor
      · intro h
        cases h
      · intro h
        exact absurd h.1.2.1 (by decide)
    | between | betweenEqualStart | betweenEqualEnd | betweenEqualStartAndEnd =>
      have hbounds : ∀ op : Operator, op = c.operator → op.packsBounds = true := by
        rintro op rfl
        rw [hop]
        rfl
      refine rangeTest_eq_error_iff.trans ?_
      simp [hbounds _ hop.symm]

/-- Where the bounds are lacking, the first target is where the condition fails. -/
theorem formula?_of_lacksBounds {field : String} {others : List String} (h : c.LacksBounds s)
    (hfields : (c.targets s).fields = field :: others) :
    c.formula? s = .error ⟨field, c.value, (s.valuesIn c.value).length⟩ := by
  have htest : c.testOf? s field = .error ⟨field, c.value, (s.valuesIn c.value).length⟩ :=
    testOf?_eq_error_iff.2 ⟨h, rfl⟩
  rw [formula?, hfields]
  by_cases hlisted : (c.targets s).listed = true
  · rw [if_pos hlisted, List.mapM_cons, htest]
    rfl
  · rw [if_neg hlisted]
    exact htest

/-- Where no bounds are lacking, nothing fails. -/
theorem exists_formula?_of_bounds (h : ¬ c.LacksBounds s) : ∃ f, c.formula? s = .ok f := by
  have htests : ∀ field, ∃ test, c.testOf? s field = .ok test := by
    intro field
    cases htest : c.testOf? s field with
    | error e => exact absurd (testOf?_eq_error_iff.1 htest).1 h
    | ok test => exact ⟨test, rfl⟩
  choose test htest using htests
  exact ⟨_, formula?_of_tests htest⟩

/-- **One condition.**  It fails just where it misranges. -/
theorem formula?_eq_error_iff {e : MalformedRange} :
    c.formula? s = .error e ↔ c.Misranges s e := by
  rw [misranges_iff]
  by_cases hlacks : c.LacksBounds s
  · cases hfields : (c.targets s).fields with
    | nil =>
      rw [formula?_of_fields_eq_nil hfields]
      exact ⟨nofun, fun ⟨_, _, _, h, _⟩ => nomatch h⟩
    | cons field others =>
      rw [formula?_of_lacksBounds hlacks hfields]
      constructor
      · intro h
        exact ⟨hlacks, field, others, rfl, (Except.error.inj h).symm⟩
      · rintro ⟨-, field', others', heq, rfl⟩
        rw [(List.cons.inj heq).1]
  · obtain ⟨f, hf⟩ := exists_formula?_of_bounds hlacks
    rw [hf]
    exact ⟨nofun, fun h => absurd h.1 hlacks⟩

/-- A blank value is no range, whatever else is wrong with it. -/
theorem formula?_of_blank_range (blank : c.valueIsBlank = true)
    (range : c.operator.packsBounds = true) : c.formula? s = .ok none := by
  have hnull : c.operator.nullTest? = none := by
    revert range
    cases c.operator <;> decide
  have htest : ∀ field, c.testOf? s field = .ok ((fun _ => none) field) := by
    intro field
    rw [testOf?, blank, hnull]
    cases c.skipIfBlank <;> rfl
  rw [formula?_of_tests htest, Targets.gather]
  by_cases hlisted : (c.targets s).listed = true
  · rw [if_pos hlisted, List.filterMap_eq_nil_iff.2 fun _ _ => rfl]
    rfl
  · rw [if_neg hlisted, Option.bind_fun_none]

end Condition

/-! ## Lists of conditions -/

/-- The terms of a list fail as the first condition that misranges. -/
theorem Separators.outcome_terms_eq_error_iff {s : Separators} {conditions : List Condition}
    {e : MalformedRange} : (s.terms conditions).outcome = .error e ↔
      FirstFailure (Condition.Misranges s) conditions e := by
  rw [outcome_terms, map_eq_error_iff,
    mapM_eq_error_iff_firstFailure fun c e => Condition.formula?_eq_error_iff]

/-- **Compiling fails at the first live range without two bounds.**  It fails just where one of the
    conditions misranges, and then as the first of these does, under any dialect; the formula of
    the conditions fails along with it.  A condition that names no field by itself or behind a
    marker, and one that asks for a range with a blank value, says nothing and never fails. -/
theorem Settings.compile_error_iff (s : Settings) (conditions : List Condition) :
    (∀ e, (s.compile conditions).outcome = .error e ↔
      FirstFailure (Condition.Misranges s.separators) conditions e) ∧
    (∀ e, (s.separators.formula? conditions).outcome = .error e ↔
      FirstFailure (Condition.Misranges s.separators) conditions e) ∧
    ((∃ e, (s.compile conditions).outcome = .error e) ↔
      ∃ c ∈ conditions, ∃ e, c.Misranges s.separators e) ∧
    ∀ c : Condition,
      (c.fieldIsBlank = true → c.formula? s.separators = .ok none) ∧
      (∀ join rest, s.separators.Reads c.field join rest →
        (∀ x ∈ rest.toList, Text.isBlank x = true ∨ x = s.separators.field) →
        c.formula? s.separators = .ok none) ∧
      (c.valueIsBlank = true → c.operator.packsBounds = true →
        c.formula? s.separators = .ok none) := by
  have hcompile : ∀ e, (s.compile conditions).outcome = .error e ↔
      FirstFailure (Condition.Misranges s.separators) conditions e := by
    intro e
    rw [outcome_compile_terms, map_eq_error_iff, Separators.outcome_terms_eq_error_iff]
  refine ⟨hcompile, ?_, ?_, fun c => ⟨Condition.formula?_of_fieldIsBlank, ?_,
    Condition.formula?_of_blank_range⟩⟩
  · intro e
    rw [Separators.outcome_formula?_terms, map_eq_error_iff, Separators.outcome_terms_eq_error_iff]
  · rw [← exists_firstFailure_iff]
    exact exists_congr hcompile
  · intro join rest reads nothing
    apply Condition.formula?_of_fields_eq_nil
    apply Separators.fields_of_nothing_named
    rw [Separators.reads_iff.1 reads]
    exact nothing

example : (({ } : Settings).compile [⟨" ", "1", .between, true⟩, ⟨"or| ,", "1|2|3", .between, true⟩,
    ⟨"a", " ", .between, false⟩, ⟨"a,b", " 7|", .between, true⟩]).outcome
      = .error ⟨"a", " 7|", 1⟩ := by decide

end FilterPlan
