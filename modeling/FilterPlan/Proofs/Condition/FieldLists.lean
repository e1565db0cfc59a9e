/-
  Field lists, field by field.

  1. **One kind** — a condition looks at nothing of a field but its name.  So its tests of several
     fields all fail, all say nothing, or can all be made (`testOf?_ofOneKind`), and a group of
     them has no term or one for each field.
  2. **Single fields** — a name from a list is trimmed and free of the field separator.  Where it
     opens with no marker, it stands for itself alone, and a condition on it is the test of it.
  3. **The crux (`formula?_listed`)** — so a list fails as its first field does, says nothing
     where its fields do, and is otherwise the group of what its fields say, none left out.
-/
import FilterPlan.Proofs.Condition.MalformedRange

namespace FilterPlan

/-! ## One kind -/

/-- The tests of all fields come out in one way. -/
inductive OfOneKind (test : String → Except MalformedRange (Option Formula)) : Prop
  | failing (e : String → MalformedRange) (fails : ∀ field, test field = .error (e field))
  | silent (skips : ∀ field, test field = .ok none)
  | made (f : String → Formula) (makes : ∀ field, test field = .ok (some (f field)))

section

variable {join : Connective} {test : String → Except MalformedRange (Option Formula)}
variable {fields : List String}

theorem groupOf_of_failing {e : String → MalformedRange}
    (fails : ∀ field, test field = .error (e field)) (field : String) (rest : List String) :
    groupOf join test (field :: rest) = .error (e field) := by
  rw [groupOf, List.mapM_cons, fails]
  rfl

theorem groupOf_of_silent (skips : ∀ field, test field = .ok none) :
    groupOf join test fields = .ok none := by
  have hnone : fields.filterMap (fun _ => (none : Option Formula)) = [] :=
    List.filterMap_eq_nil_iff.2 fun _ _ => rfl
  rw [groupOf_of_tests skips, hnone]
  rfl

theorem groupOf_of_made {f : String → Formula}
    (makes : ∀ field, test field = .ok (some (f field))) :
    groupOf join test fields = .ok (Formula.grouped? join (fields.map f)) := by
  rw [groupOf_of_tests makes, List.filterMap_eq_map']

end

namespace OfOneKind

variable {test : String → Except MalformedRange (Option Formula)}

/-- A field is passed over only where every field is. -/
theorem eq_ok_none_iff (h : OfOneKind test) (field field' : String) :
    test field = .ok none ↔ test field' = .ok none := by
  cases h with
  | failing e fails =>
    rw [fails, fails]
    exact ⟨nofun, nofun⟩
  | silent skips => rw [skips, skips]
  | made f makes =>
    rw [makes, makes]
    exact ⟨nofun, nofun⟩

/-- A group fails as the test of its first field. -/
theorem groupOf_eq_error_iff (h : OfOneKind test) (join : Connective) (fields : List String)
    (e : MalformedRange) : groupOf join test fields = .error e ↔
      ∃ field ∈ fields.head?, test field = .error e := by
  cases fields with
  | nil => exact ⟨nofun, nofun⟩
  | cons field rest =>
    simp only [List.head?_cons, Option.mem_some_iff, exists_eq_left']
    cases h with
    | failing e' fails => rw [groupOf_of_failing fails, fails]
    | silent skips => rw [groupOf_of_silent skips, skips]
    | made f makes =>
      rw [groupOf_of_made makes, makes]
      exact ⟨nofun, nofun⟩

/-- A group says nothing just where the test of each of its fields does. -/
theorem groupOf_eq_none_iff (h : OfOneKind test) (join : Connective) (fields : List String) :
    groupOf join test fields = .ok none ↔ ∀ field ∈ fields, test field = .ok none := by
  cases fields with
  | nil => exact ⟨fun _ => List.forall_mem_nil _, fun _ => rfl⟩
  | cons field rest =>
    have hall : (∀ x ∈ field :: rest, test x = .ok none) ↔ test field = .ok none := by
      constructor
      · intro hnone
        exact hnone field List.mem_cons_self
      · intro hnone x _
        exact (h.eq_ok_none_iff field x).1 hnone
    rw [hall]
    cases h with
    | failing e fails => rw [groupOf_of_failing fails, fails]
    | silent skips => rw [groupOf_of_silent skips, skips]
    | made f makes =>
      rw [groupOf_of_made makes, makes]
      exact ⟨nofun, nofun⟩

/-- A group that says something has a term for each of its fields. -/
theorem groupOf_eq_some_iff (h : OfOneKind test) (join : Connective) (fields : List String)
    (g : Formula) : groupOf join test fields = .ok (some g) ↔
      ∃ terms, terms ≠ [] ∧
        List.Forall₂ (fun field term => test field = .ok (some term)) fields terms ∧
        g = .junction join true terms := by
  cases fields with
  | nil =>
    refine ⟨nofun, ?_⟩
    rintro ⟨terms, nonempty, made, -⟩
    exact absurd (List.forall₂_nil_left_iff.1 made) nonempty
  | cons field rest =>
    cases h with
    | failing e fails =>
      rw [groupOf_of_failing fails]
      refine ⟨nofun, ?_⟩
      rintro ⟨terms, -, made, -⟩
      obtain ⟨term, others, hfield, -, -⟩ := List.forall₂_cons_left_iff.1 made
      exact nomatch (fails field).symm.trans hfield
    | silent skips =>
      rw [groupOf_of_silent skips]
      refine ⟨nofun, ?_⟩
      rintro ⟨terms, -, made, -⟩
      obtain ⟨term, others, hfield, -, -⟩ := List.forall₂_cons_left_iff.1 made
      exact nomatch (skips field).symm.trans hfield
    | made f makes =>
      have hterms : ∀ terms, List.Forall₂ (fun field term => test field = .ok (some term))
          (field :: rest) terms ↔ (field :: rest).map f = terms := by
        intro terms
        simp only [makes, Except.ok.injEq, Option.some.injEq]
        rw [← List.forall₂_map_left_iff, List.forall₂_eq_eq_eq]
      rw [groupOf_of_made makes]
      simp only [hterms]
      constructor
      · intro h
        exact ⟨_, List.cons_ne_nil _ _, rfl, (Option.some.inj (Except.ok.inj h)).symm⟩
      · rintro ⟨terms, -, rfl, rfl⟩
        rfl

end OfOneKind

/-- What an operator says is of one kind for all fields. -/
theorem Operator.Shape.test?_ofOneKind (s : Separators) (value : String) (shape : Operator.Shape) :
    OfOneKind fun field => shape.test? s field value := by
  cases shape with
  | comparison op => exact .made _ fun field => rfl
  | text test => exact .made _ fun field => rfl
  | membership op join =>
    by_cases hvalues : s.valuesIn value = []
    · refine .silent fun field => ?_
      rw [test?, membership?_eq, if_pos hvalues]
    · refine .made (fun field => .junction join false
        ((s.valuesIn value).map fun v => .atom (.compare field op v))) fun field => ?_
      rw [test?, membership?_eq, if_neg hvalues]
  | range lower upper =>
    by_cases htwo : (s.valuesIn value).length = 2
    · obtain ⟨start, stop, hvalues⟩ := List.length_eq_two.1 htwo
      refine .made (fun field => .junction .and false
        [.atom (.compare field lower start), .atom (.compare field upper stop)]) fun field => ?_
      rw [test?, rangeTest, hvalues]
      rfl
    · refine .failing (fun field => ⟨field, value, (s.valuesIn value).length⟩) fun field => ?_
      exact Condition.rangeTest_eq_error_iff.2 ⟨htwo, rfl⟩

/-- **One kind.**  Whether the test of a field fails, says nothing or is made does not depend on
    the field. -/
theorem Condition.testOf?_ofOneKind (s : Separators) (c : Condition) : OfOneKind (c.testOf? s) := by
  cases hblank : c.valueIsBlank with
  | false =>
    have htest : c.testOf? s = fun field => c.operator.shape.test? s field c.value := by
      funext field
      rw [testOf?, hblank]
      rfl
    rw [htest]
    exact Operator.Shape.test?_ofOneKind s c.value c.operator.shape
  | true =>
    have htest : ∀ field, c.testOf? s field = if c.skipIfBlank then .ok none
        else .ok (c.operator.nullTest?.map fun op => .atom (.null field op)) := by
      intro field
      rw [testOf?, hblank]
      rfl
    by_cases hskip : c.skipIfBlank = true
    · exact .silent fun field => by rw [htest, if_pos hskip]
    · cases hnull : c.operator.nullTest? with
      | none => exact .silent fun field => by rw [htest, if_neg hskip, hnull]; rfl
      | some op =>
        refine .made (fun field => .atom (.null field op)) fun field => ?_
        rw [htest, if_neg hskip, hnull]
        rfl

/-! ## Single fields -/

/-- A field text opens with no marker where what is cut off it is none. -/
theorem Separators.unmarked_iff {s : Separators} {field : String} :
    (∀ join rest, ¬ s.Marks field join rest) ↔
      ((Text.cut? s.value field).bind fun cut => Connective.ofMarker? cut.1) = none := by
  constructor
  · intro h
    cases hcut : Text.cut? s.value field with
    | none => rfl
    | some cut =>
      obtain ⟨head, rest⟩ := cut
      rw [Option.bind_some]
      cases hmarker : Connective.ofMarker? head with
      | none => rfl
      | some join => exact absurd (marks_iff.2 ⟨head, hcut, hmarker⟩) (h join rest)
  · intro h join rest marks
    obtain ⟨head, hcut, hmarker⟩ := marks_iff.1 marks
    rw [hcut, Option.bind_some, hmarker] at h
    cases h

/-- The names in a list are trimmed, not empty and no lists themselves. -/
theorem Separators.Names.of_listed {s : Separators} {rest field : String} {fields : List String}
    (names : s.Names rest fields) (listed : s.field ∈ rest.toList) (hfield : field ∈ fields) :
    Text.TrimsTo field field ∧ field ≠ "" ∧ s.field ∉ field.toList := by
  cases names with
  | single unseparated _ => exact absurd listed unseparated
  | @listed pieces cores _ split trimmed =>
    rw [Text.forall₂_trimsTo_iff.1 trimmed, List.mem_filter, List.mem_map] at hfield
    obtain ⟨⟨piece, hpiece, hcore⟩, nonempty⟩ := hfield
    have trims : Text.TrimsTo piece field := Text.trimsTo_iff.2 hcore.symm
    refine ⟨trims.core, by simpa using nonempty, fun hm => ?_⟩
    exact split.free piece hpiece (trims.mem hm)

namespace Condition

variable {s : Separators} {c : Condition}

/-- A condition on a trimmed field that is no list and opens with no marker is the test of that
    field. -/
theorem formula?_retarget {field : String} (trimmed : Text.TrimsTo field field)
    (nonempty : field ≠ "") (single : s.field ∉ field.toList)
    (unmarked : ∀ join rest, ¬ s.Marks field join rest) :
    (c.retarget field).formula? s = c.testOf? s field := by
  have hread : s.readMarker field = (.or, field) := Separators.reads_iff.1 (.plain unmarked)
  have hlists : s.listsFields field = false := by
    simpa [Separators.listsFields] using single
  have htargets : s.targets field = ⟨.or, [field], false⟩ := by
    rw [Separators.targets, hread]
    show (if s.listsFields field then _ else _) = _
    rw [hlists, ← Text.trimsTo_iff.1 trimmed]
    simp [nonempty]
  have hfields : (c.retarget field).targets s = ⟨.or, [field], false⟩ := htargets
  rw [formula?, hfields]
  rfl

/-! ## Lists -/

/-- A list of fields is tested field by field. -/
theorem formula?_eq_groupOf {join : Connective} {rest : String} {fields : List String}
    (reads : s.Reads c.field join rest) (listed : s.field ∈ rest.toList)
    (names : s.Names rest fields) : c.formula? s = groupOf join (c.testOf? s) fields := by
  have hlists : s.listsFields rest = true := by
    simpa [Separators.listsFields] using listed
  have htargets : c.targets s = ⟨join, fields, true⟩ := by
    rw [targets, Separators.targets, Separators.reads_iff.1 reads]
    show (if s.listsFields rest then _ else _) = _
    rw [Separators.names_iff.1 names, if_pos hlists, if_pos hlists]
  rw [formula?, htargets]
  rfl

/-- **Field lists.**  A condition on a list of fields, none of which opens with a marker itself,
    fails as the condition on the first of them alone does, and only then.  It says nothing just
    where those on each of them say nothing.  Otherwise it is the group of what they say, in order
    and under the connective asked for, with one term for each field: none of them is passed over
    unless all are. -/
theorem formula?_listed {join : Connective} {rest : String} {fields : List String}
    (reads : s.Reads c.field join rest) (listed : s.field ∈ rest.toList)
    (names : s.Names rest fields)
    (unmarked : ∀ field ∈ fields, ∀ join rest, ¬ s.Marks field join rest) :
    (∀ e, c.formula? s = .error e ↔
      ∃ field ∈ fields.head?, (c.retarget field).formula? s = .error e) ∧
    (c.formula? s = .ok none ↔ ∀ field ∈ fields, (c.retarget field).formula? s = .ok none) ∧
    (∀ f, c.formula? s = .ok (some f) ↔ ∃ terms, terms ≠ [] ∧ terms.length = fields.length ∧
      List.Forall₂ (fun field term => (c.retarget field).formula? s = .ok (some term))
        fields terms ∧
      f = .junction join true terms) ∧
    (∀ field ∈ fields, ∀ field' ∈ fields, (c.retarget field).formula? s = .ok none →
      (c.retarget field').formula? s = .ok none) := by
  have hkind : OfOneKind (c.testOf? s) := testOf?_ofOneKind s c
  have hchild : ∀ field ∈ fields, (c.retarget field).formula? s = c.testOf? s field := by
    intro field hfield
    obtain ⟨trimmed, nonempty, single⟩ := names.of_listed listed hfield
    exact formula?_retarget trimmed nonempty single (unmarked field hfield)
  have hgroup : c.formula? s = groupOf join (c.testOf? s) fields :=
    formula?_eq_groupOf reads listed names
  have hterms : ∀ terms,
      List.Forall₂ (fun field term => c.testOf? s field = .ok (some term)) fields terms ↔
        List.Forall₂ (fun field term => (c.retarget field).formula? s = .ok (some term)) fields
          terms := by
    intro terms
    rw [List.forall₂_iff_zip, List.forall₂_iff_zip]
    refine and_congr_right fun _ => ⟨fun h field term hzip => ?_, fun h field term hzip => ?_⟩
    · rw [hchild field (List.of_mem_zip hzip).1]
      exact h hzip
    · rw [← hchild field (List.of_mem_zip hzip).1]
      exact h hzip
  refine ⟨fun e => ?_, ?_, fun f => ?_, ?_⟩
  · rw [hgroup, hkind.groupOf_eq_error_iff]
    refine exists_congr fun field => and_congr_right fun hfield => ?_
    rw [hchild field (List.mem_of_mem_head? hfield)]
  · rw [hgroup, hkind.groupOf_eq_none_iff]
    exact forall₂_congr fun field hfield => by rw [hchild field hfield]
  · rw [hgroup, hkind.groupOf_eq_some_iff]
    refine exists_congr fun terms => and_congr_right fun _ => ?_
    rw [hterms]
    constructor
    · rintro ⟨hall, rfl⟩
      exact ⟨hall.length_eq.symm, hall, rfl⟩
    · rintro ⟨-, hall, rfl⟩
      exact ⟨hall, rfl⟩
  · intro field hfield field' hfield' hnone
    rw [hchild field hfield] at hnone
    rw [hchild field' hfield', hkind.eq_ok_none_iff field' field]
    exact hnone

/-- A list behind a marker in capitals, with an empty name in it and one that holds the value
    separator. -/
theorem formula?_listed_marked :
    let s : Separators := { }
    let c : Condition := ⟨"AND | a ,x|y,, b", "1|2", .betweenEqualEnd, true⟩
    let test := fun field : String => Formula.junction .and false
      [.atom (.compare field .gt "1"), .atom (.compare field .le "2")]
    s.Reads c.field .and " a ,x|y,, b" ∧ s.field ∈ " a ,x|y,, b".toList ∧
      s.Names " a ,x|y,, b" ["a", "x|y", "b"] ∧
      (∀ field ∈ ["a", "x|y", "b"], ∀ join rest, ¬ s.Marks field join rest) ∧
      c.formula? s = .ok (some (.junction .and true [test "a", test "x|y", test "b"])) := by
  intro s c test
  have reads : s.Reads c.field .and " a ,x|y,, b" := Separators.reads_iff.2 (by decide)
  have listed : s.field ∈ " a ,x|y,, b".toList := by decide
  have names : s.Names " a ,x|y,, b" ["a", "x|y", "b"] := Separators.names_iff.2 (by decide)
  have unmarked : ∀ field ∈ ["a", "x|y", "b"], ∀ join rest, ¬ s.Marks field join rest := by
    simp only [Separators.unmarked_iff]
    decide
  have singles : List.Forall₂ (fun field term => (c.retarget field).formula? s = .ok (some term))
      ["a", "x|y", "b"] [test "a", test "x|y", test "b"] := by
    simp only [s, c, test]
    exact .cons rfl (.cons rfl (.cons rfl .nil))
  obtain ⟨-, -, made, -⟩ := formula?_listed reads listed names unmarked
  exact ⟨reads, listed, names, unmarked, (made _).2 ⟨_, List.cons_ne_nil _ _, rfl, singles, rfl⟩⟩

end Condition

end FilterPlan
