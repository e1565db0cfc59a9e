/-
  The two dialects differ in spelling only.

  1. **Arguments** — an atom binds its value in Dynamic LINQ; in PostgreSQL a text test binds the
     LIKE pattern of it instead.  A formula binds what its atoms do, from left to right.
  2. **Reading** — `IsReadAs` says that a predicate has one parse, whose tests stand for the atoms
     that they are labelled with and whose placeholders count the arguments.
  3. **Places** — the tests that refer to an argument are as many as the atoms that bind one, and
     both are counted from left to right: what is found at a test's index is its own atom's, in
     this dialect and in the other.
  4. **The crux (`dialects_agree`)** — a list of conditions fails alike in both dialects, is empty
     in both, or gives two predicates with the same arguments in the same places and, where the
     fields can be named, with the same parse.
-/
import FilterPlan.Proofs.Condition.Fields
import FilterPlan.Proofs.Expression.ReadBack

namespace FilterPlan

open Grammar

/-! ## Arguments -/

/-- The argument that an atom binds, if it binds one. -/
def Atom.argument? : Dialect → Atom → Option String
  | _, .compare _ _ value => some value
  | _, .null _ _ => none
  | .dynamicLinq, .text _ _ value => some value
  | .postgres, .text _ test value => some (test.likePattern value)

/-- What an atom binds in PostgreSQL where it binds this value in Dynamic LINQ. -/
def Atom.inPostgres (value : String) : Atom → String
  | .text _ test _ => test.likePattern value
  | _ => value

theorem Atom.argument?_postgres (a : Atom) :
    a.argument? .postgres = (a.argument? .dynamicLinq).map fun value => a.inPostgres value := by
  cases a <;> rfl

theorem Atom.bound_template (d : Dialect) (a : Atom) :
    Template.bound (a.template d) = (a.argument? d).toList := by
  cases a with
  | compare field op value => cases d <;> rfl
  | null field op => cases d <;> rfl
  | text field test value => cases d <;> rfl

/-- A test that stands for an atom refers to an argument where the atom binds one. -/
theorem StandsFor.isSome_index? {arguments : List String} {d : Dialect} {t : Test} {a : Atom}
    (h : StandsFor arguments d t a) (d' : Dialect) :
    t.form.index?.isSome = (a.argument? d').isSome := by
  cases h <;> cases d' <;> rfl

/-- Something is always asked of the field. -/
theorem Atom.ending_ne_empty (d : Dialect) (index : Nat) (a : Atom) : a.ending d index ≠ "" := by
  cases a with
  | compare field op value => simp [ending]
  | null field op => cases d <;> cases op <;> simp [ending]
  | text field test value => cases d <;> simp [ending]

namespace Formula

theorem bound_joined {d : Dialect} {op : Connective} {grouped : Bool} {terms : List Formula}
    (hterms : ∀ term ∈ terms, Template.bound (term.template d)
      = term.atoms.filterMap (Atom.argument? d)) :
    Template.bound (joined d op grouped terms)
      = (atomsOf terms).filterMap (Atom.argument? d) := by
  induction terms with
  | nil => rfl
  | cons term rest ih =>
    obtain ⟨hterm, hrest⟩ := List.forall_mem_cons.1 hterms
    rw [atomsOf, List.filterMap_append, ← hterm, ← ih hrest]
    cases rest with
    | nil => rw [joined, joined, Template.bound_enclose, Template.bound_nil, List.append_nil]
    | cons next rest =>
      rw [joined, Template.bound_append, Template.bound_enclose, Template.bound_verbatim]

/-- **Arguments.**  A formula binds what its atoms bind, from left to right. -/
theorem bound_template (d : Dialect) (f : Formula) :
    Template.bound (f.template d) = f.atoms.filterMap (Atom.argument? d) := by
  induction f using Formula.induction with
  | atom a =>
    rw [template, atoms, Atom.bound_template]
    cases h : a.argument? d <;> simp [h]
  | junction op grouped terms ih =>
    rw [template, atoms]
    exact bound_joined ih

theorem arguments_predicate (d : Dialect) (f : Formula) :
    (f.predicate d).arguments = f.atoms.filterMap (Atom.argument? d) := by
  rw [predicate_eq]
  exact f.bound_template d

/-- A formula binds as much in one dialect as in the other. -/
theorem length_arguments_predicate (d d' : Dialect) (f : Formula) :
    (f.predicate d).arguments.length = (f.predicate d').arguments.length := by
  have hbinds : ∀ a : Atom, (a.argument? d).isSome = (a.argument? d').isSome := by
    intro a
    cases a <;> cases d <;> cases d' <;> rfl
  rw [arguments_predicate, arguments_predicate, List.length_filterMap_eq_countP,
    List.length_filterMap_eq_countP]
  exact List.countP_congr fun a _ => by rw [hbinds]

/-- A formula with terms in every junction is never written as the empty text. -/
theorem text_template_ne_empty (d : Dialect) {f : Formula} (whole : f.isWhole = true)
    (index : Nat) : Template.text d index (f.template d) ≠ "" := by
  induction f using Formula.induction generalizing index with
  | atom a =>
    rw [template, Atom.text_template]
    exact fun h => a.ending_ne_empty d index (String.append_eq_empty_iff.1 h).2
  | junction op grouped terms ih =>
    rw [isWhole, Bool.and_eq_true, areWhole_iff] at whole
    obtain ⟨nonempty, hterms⟩ := whole
    cases terms with
    | nil => cases nonempty
    | cons term rest =>
      have hterm := ih term List.mem_cons_self (hterms term List.mem_cons_self) index
      have hfirst : ∀ parens, Template.text d index (enclose parens (term.template d)) ≠ "" := by
        intro parens
        cases parens with
        | true => simp [enclose, Template.text]
        | false => exact hterm
      rw [template]
      cases rest with
      | nil =>
        rw [joined]
        exact hfirst _
      | cons next rest =>
        rw [joined, Template.text_append]
        exact fun h => hfirst _ (String.append_eq_empty_iff.1 h).1

theorem isEmpty_predicate {d : Dialect} (f : Formula) (whole : f.isWhole = true) :
    (f.predicate d).isEmpty = false := by
  have hne := text_template_ne_empty d whole 0
  rw [predicate_eq, Predicate.isEmpty]
  simpa using hne

end Formula

/-! ## Reading -/

/-- The predicate has one parse in the dialect.  Its tests stand for the atoms that label them, and
    its placeholders count the arguments from zero on. -/
structure Predicate.IsReadAs (d : Dialect) (p : Predicate) (e : Expression (Test × Atom)) :
    Prop where
  parses_iff : ∀ parsed, Parses d p.expression parsed ↔ parsed = e.map Prod.fst
  standsFor : ∀ l ∈ e.leaves, StandsFor p.arguments d l.1 l.2
  indices : e.leaves.filterMap (fun l => l.1.form.index?) = List.range p.arguments.length

/-- **One expression for both.**  The text of a formula is read as the expression that the formula
    alone decides. -/
theorem Formula.predicate_isReadAs {d : Dialect} {f : Formula} {shape : Expression Atom}
    (h : f.IsParsedAs shape) (hfields : ∀ a ∈ f.atoms, d.CanName a.field) :
    ∃ e, (f.predicate d).IsReadAs d e ∧ e.map Prod.snd = shape := by
  rw [predicate_eq]
  have hbound : Template.bound (f.template d) <+: (Template.bound (f.template d)).drop 0 :=
    List.prefix_refl _
  obtain ⟨ts, e, hreads, hderives, hshape, hindices⟩ := readsAs_formula h hfields hbound
  have hparses : Parses d (Template.text d 0 (f.template d)) (e.map Prod.fst) :=
    ⟨ts, hreads.lexemes?_eq, (hderives.lift f.scope_suffix).map fun ts l h => h.1⟩
  refine ⟨e, ⟨fun parsed => ?_, fun l hl => ?_, ?_⟩, hshape⟩
  · exact ⟨fun h => h.unique hparses, fun h => h ▸ hparses⟩
  · obtain ⟨ts, htest⟩ := hderives.exists_leaf hl
    exact htest.2
  · rw [hindices, List.range_eq_range']

/-! ## Places -/

/-- Where members are numbered in turn, all those that hold something and no others, the number of
    a member is the place of what it holds. -/
theorem getElem?_filterMap_of_numbered {α β : Type} {number? : α → Option Nat}
    {held? : α → Option β} {xs : List α} {first count : Nat}
    (hnumbers : xs.filterMap number? = List.range' first count)
    (hheld : ∀ x ∈ xs, (number? x).isSome = (held? x).isSome) {x : α} (hx : x ∈ xs) {i : Nat}
    (hi : number? x = some i) : ∃ j, i = first + j ∧ (xs.filterMap held?)[j]? = held? x := by
  -- for every first number: one that is given to the head moves the places behind it by one
  induction xs generalizing first count with
  | nil => cases hx
  | cons y ys ih =>
    obtain ⟨hhead, htail⟩ := List.forall_mem_cons.1 hheld
    cases hy : number? y with
    | none =>
      have hnothing : held? y = none := by
        rw [hy] at hhead
        exact Option.isNone_iff_eq_none.1 (Option.isSome_eq_false_iff.1 hhead.symm)
      have hys : x ∈ ys := by
        rcases List.mem_cons.1 hx with rfl | hys
        · rw [hy] at hi
          cases hi
        · exact hys
      rw [List.filterMap_cons_none hy] at hnumbers
      rw [List.filterMap_cons_none hnothing]
      exact ih hnumbers htail hys
    | some n =>
      obtain ⟨held, hsome⟩ : ∃ held, held? y = some held := by
        rw [hy] at hhead
        exact Option.isSome_iff_exists.1 hhead.symm
      rw [List.filterMap_cons_some hy] at hnumbers
      rw [List.filterMap_cons_some hsome]
      cases count with
      | zero => cases hnumbers
      | succ count =>
        rw [List.range'_succ] at hnumbers
        obtain ⟨rfl, hrest⟩ := List.cons.inj hnumbers
        rcases List.mem_cons.1 hx with rfl | hys
        · have hin : n = i := Option.some.inj (hy.symm.trans hi)
          exact ⟨0, hin.symm, hsome.symm⟩
        · obtain ⟨j, hj, hplace⟩ := ih hrest htail hys
          exact ⟨j + 1, by omega, by rw [List.getElem?_cons_succ, hplace]⟩

/-- **Places.**  Where a test refers to an argument, it is the argument of its own atom that stands
    there, in either dialect. -/
theorem Predicate.IsReadAs.getElem?_arguments {d d' : Dialect} {f : Formula}
    {e : Expression (Test × Atom)} (h : (f.predicate d).IsReadAs d e)
    (hatoms : e.leaves.map Prod.snd = f.atoms) {l : Test × Atom} (hl : l ∈ e.leaves) {i : Nat}
    (hi : l.1.form.index? = some i) :
    (f.predicate d').arguments[i]? = l.2.argument? d' := by
  have hindices := h.indices
  rw [List.range_eq_range'] at hindices
  have hbinds : ∀ l ∈ e.leaves, l.1.form.index?.isSome = (l.2.argument? d').isSome :=
    fun l hl => (h.standsFor l hl).isSome_index? d'
  obtain ⟨j, hj, hplace⟩ := getElem?_filterMap_of_numbered hindices hbinds hl hi
  rw [Formula.arguments_predicate, ← hatoms, List.filterMap_map, hj, Nat.zero_add]
  exact hplace

/-! ## Both dialects -/

/-- **One formula.**  Written in PostgreSQL, a formula with terms in every junction is read as
    tests whose arguments are those of Dynamic LINQ, or the LIKE patterns of them for text tests;
    written in Dynamic LINQ, it is read as the same expression of the same atoms if its fields can
    be named there. -/
theorem Formula.predicates_agree {f : Formula} (whole : f.isWhole = true) :
    ∃ e, (f.predicate .postgres).IsReadAs .postgres e ∧
      (∀ l ∈ e.leaves, ∀ i ∈ l.1.form.index?, ∃ value,
        (f.predicate .dynamicLinq).arguments[i]? = some value ∧
        (f.predicate .postgres).arguments[i]? = some (l.2.inPostgres value)) ∧
      ((∀ a ∈ f.atoms, PlainPath a.field) →
        ∃ e', (f.predicate .dynamicLinq).IsReadAs .dynamicLinq e' ∧
          e'.map Prod.snd = e.map Prod.snd) := by
  -- the shape is that of the formula, so one serves both dialects
  obtain ⟨shape, hshape⟩ := exists_isParsedAs whole
  obtain ⟨e, hread, hmap⟩ := predicate_isReadAs (d := .postgres) hshape fun a _ => trivial
  refine ⟨e, hread, ?_, ?_⟩
  · intro l hl i hi
    have hatoms : e.leaves.map Prod.snd = f.atoms := by
      rw [← Expression.leaves_map, hmap, hshape.leaves]
    have hsome : (l.2.argument? .dynamicLinq).isSome = true := by
      rw [← (hread.standsFor l hl).isSome_index?, hi]
      rfl
    obtain ⟨value, hvalue⟩ := Option.isSome_iff_exists.1 hsome
    refine ⟨value, ?_, ?_⟩
    · rw [hread.getElem?_arguments hatoms hl hi, hvalue]
    · rw [hread.getElem?_arguments hatoms hl hi, Atom.argument?_postgres, hvalue, Option.map_some]
  · intro plain
    obtain ⟨e', hread', hmap'⟩ := predicate_isReadAs (d := .dynamicLinq) hshape plain
    exact ⟨e', hread', hmap'.trans hmap.symm⟩

/-- **The dialects agree.**  A list of conditions compiled with the same separators fails with the
    same error in both dialects, or it gives the empty predicate in both, or two expressions with
    as many arguments.  In PostgreSQL each argument belongs to a test, and it is the argument of
    Dynamic LINQ at the same place: the LIKE pattern of that one where the test is a text test, the
    same text otherwise.  If the targets are plain paths, the expressions are parsed as the same
    formula over the same atoms. -/
theorem Separators.dialects_agree (s : Separators) (conditions : List Condition) :
    let linq := (Settings.compile ⟨s, .dynamicLinq⟩ conditions).outcome
    let postgres := (Settings.compile ⟨s, .postgres⟩ conditions).outcome
    (∃ e, linq = .error e ∧ postgres = .error e) ∨ (linq = .ok { } ∧ postgres = .ok { }) ∨
      ∃ p q, linq = .ok p ∧ postgres = .ok q ∧ p.isEmpty = false ∧ q.isEmpty = false ∧
        p.arguments.length = q.arguments.length ∧
        ∃ e, q.IsReadAs .postgres e ∧
          (∀ l ∈ e.leaves, ∀ i ∈ l.1.form.index?, ∃ value,
            p.arguments[i]? = some value ∧ q.arguments[i]? = some (l.2.inPostgres value)) ∧
          ((∀ c ∈ conditions, ∀ field ∈ (c.targets s).fields, PlainPath field) →
            ∃ e', p.IsReadAs .dynamicLinq e' ∧ e'.map Prod.snd = e.map Prod.snd) := by
  intro linq postgres
  have hlinq : linq = _ := Settings.outcome_compile ⟨s, .dynamicLinq⟩ conditions
  have hpostgres : postgres = _ := Settings.outcome_compile ⟨s, .postgres⟩ conditions
  rw [hlinq, hpostgres]
  cases hformula : (s.formula? conditions).outcome with
  | error e => exact .inl ⟨e, rfl, rfl⟩
  | ok f? =>
    cases f? with
    | none => exact .inr (.inl ⟨rfl, rfl⟩)
    | some f =>
      obtain ⟨whole, hfields⟩ := Separators.testsOnly_of_formula? hformula
      have hempty : ∀ d, (f.predicate d).isEmpty = false := fun _ => f.isEmpty_predicate whole
      obtain ⟨e, hread, hplaces, hplain⟩ := Formula.predicates_agree whole
      refine .inr (.inr ⟨_, _, rfl, rfl, hempty _, hempty _, f.length_arguments_predicate _ _, e,
        hread, hplaces, fun plain => hplain fun a ha => ?_⟩)
      obtain ⟨c, hc, hfield⟩ := List.mem_flatMap.1 (hfields a ha)
      exact plain c hc a.field hfield

/-- Two text tests, a range and a test for null, all of fields that both dialects can name. -/
theorem Separators.dialects_agree_mixed :
    let conditions : List Condition := [⟨"Owner.Name,Note", "50%", .contains, true⟩,
      ⟨"Age", "18|65", .between, true⟩, ⟨"Id", " ", .equal, false⟩]
    let linq := (Settings.compile ⟨{ }, .dynamicLinq⟩ conditions).outcome
    let postgres := (Settings.compile ⟨{ }, .postgres⟩ conditions).outcome
    (∀ c ∈ conditions, ∀ field ∈ (c.targets { }).fields, PlainPath field) ∧
      ∃ p q, linq = .ok p ∧ postgres = .ok q ∧ p.arguments = ["50%", "50%", "18", "65"] ∧
        q.arguments = ["%50\\%%", "%50\\%%", "18", "65"] ∧
        ∃ e e', q.IsReadAs .postgres e ∧ p.IsReadAs .dynamicLinq e' ∧
          e'.map Prod.snd = e.map Prod.snd := by
  intro conditions linq postgres
  have plain : ∀ c ∈ conditions, ∀ field ∈ (c.targets { }).fields, PlainPath field := by
    decide +kernel
  have hlinq : linq = .ok ⟨"((Owner.Name.Contains(@0)) or (Note.Contains(@1))) and "
      ++ "(Age > @2 and Age < @3) and (Id == null)", ["50%", "50%", "18", "65"]⟩ := by
    decide +kernel
  have hpostgres : postgres = .ok ⟨"((\"Owner\".\"Name\" LIKE $1 ESCAPE '\\') OR "
      ++ "(\"Note\" LIKE $2 ESCAPE '\\')) AND (\"Age\" > $3 AND \"Age\" < $4) AND "
      ++ "(\"Id\" IS NULL)", ["%50\\%%", "%50\\%%", "18", "65"]⟩ := by
    decide +kernel
  rcases Separators.dialects_agree { } conditions with
    ⟨e, hfails, -⟩ | ⟨hempty, -⟩ | ⟨p, q, hp, hq, -, -, -, e, hread, -, hplain⟩
  · exact absurd (hlinq.symm.trans hfails) (by simp)
  · exact absurd (hlinq.symm.trans hempty) (by simp)
  · obtain ⟨e', hread', hmap⟩ := hplain plain
    refine ⟨plain, p, q, hp, hq, ?_, ?_, e, e', hread, hread', hmap⟩
    · rw [← Except.ok.inj (hlinq.symm.trans hp)]
    · rw [← Except.ok.inj (hpostgres.symm.trans hq)]

end FilterPlan
