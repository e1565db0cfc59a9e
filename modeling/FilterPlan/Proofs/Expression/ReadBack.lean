/-
  The text of a formula reads back as the formula.

  1. **Derivations** — an expression can stand wherever more connectives are allowed, and two of
     them with a connective between are derived as their chain.
  2. **Reading** — `ReadsAs` says that a template, written behind so many arguments, is derived as
     an expression of tests, and that these stand for the atoms of a given one.
  3. **Formulas** — read as their expression under the connectives of their `scope`: the
     parentheses of a term that clashes are enough, and those of a grouped junction do no harm.
  4. **The crux (`predicate_reads_back`)** — a formula with terms in every junction has exactly one
     parse; it has the formula's value, atoms and order, and its placeholders count the arguments.
-/
import FilterPlan.Proofs.Expression.Tests
import FilterPlan.Proofs.Expression.Shape

namespace FilterPlan

open Lexeme Grammar

/-! ## Derivations -/

namespace Grammar.Derives

variable {α β : Type} {d : Dialect} {Leaf : List Lexeme → α → Prop}
variable {ops : List Connective} {ts us : List Lexeme} {e f : Expression α}

/-- An expression is also one where looser connectives may stand. -/
theorem lift {ops' : List Connective} (h : Derives d Leaf ops ts e) (hops : ops <:+ ops') :
    Derives d Leaf ops' ts e := by
  obtain ⟨looser, rfl⟩ := hops
  induction looser with
  | nil => exact h
  | cons op looser ih => exact .single ih

theorem map {Leaf' : List Lexeme → β → Prop} {g : α → β}
    (hleaf : ∀ ts a, Leaf ts a → Leaf' ts (g a)) (h : Derives d Leaf ops ts e) :
    Derives d Leaf' ops ts (e.map g) := by
  induction h with
  | leaf h => exact .leaf (hleaf _ _ h)
  | enclosed hinner ih => exact .enclosed ih
  | single honly ih => exact .single ih
  | joined hfirst hword hrest ihfirst ihrest => exact .joined ihfirst hword ihrest

/-- Every leaf was written somewhere. -/
theorem exists_leaf (h : Derives d Leaf ops ts e) {a : α} (ha : a ∈ e.leaves) :
    ∃ us, Leaf us a := by
  induction h with
  | leaf hleaf =>
    rw [List.mem_singleton.1 ha]
    exact ⟨_, hleaf⟩
  | enclosed hinner ih => exact ih ha
  | single honly ih => exact ih ha
  | joined hfirst hword hrest ihfirst ihrest =>
    rcases List.mem_append.1 ha with ha | ha
    · exact ihfirst ha
    · exact ihrest ha

/-- What is joined outside parentheses is joined by a connective that may stand there. -/
theorem mem_of_joined {op : Connective} (h : Derives d Leaf ops ts (.joined op e f)) : op ∈ ops := by
  generalize hjoined : Expression.joined op e f = whole at h
  induction h with
  | leaf hleaf => cases hjoined
  | enclosed hinner ih => cases hjoined
  | single honly ih => exact List.mem_cons_of_mem _ (ih hjoined)
  | joined hfirst hword hrest ihfirst ihrest =>
    cases hjoined
    exact List.mem_cons_self

/-- Two expressions with a connective between them are their chain. -/
theorem chain {op : Connective} {w : String} (hop : op ∉ ops)
    (h : Derives d Leaf (op :: ops) ts e) (hword : connective? d w = some op)
    (h' : Derives d Leaf (op :: ops) us f) :
    Derives d Leaf (op :: ops) (ts ++ .word w :: us) (e.chain op f) := by
  -- along the chain of the first expression: the second one goes behind its last member
  generalize hlevel : op :: ops = level at h
  induction h with
  | leaf hleaf => cases hlevel
  | enclosed hinner ih => cases hlevel
  | @single _ _ _ e honly ih =>
    obtain ⟨rfl, rfl⟩ := List.cons.inj hlevel
    have hchain : e.chain op f = .joined op e f := by
      cases e with
      | leaf | enclosed => rfl
      | joined op' first rest =>
        have hne : op' ≠ op := by
          rintro rfl
          exact hop honly.mem_of_joined
        exact if_neg hne
    rw [hchain]
    exact .joined honly hword h'
  | joined hfirst hword' hrest ihfirst ihrest =>
    have hchain := ihrest hlevel
    obtain ⟨rfl, rfl⟩ := List.cons.inj hlevel
    rw [List.append_assoc, Expression.chain, if_pos rfl]
    exact .joined hfirst hword' hchain

end Grammar.Derives

/-! ## Reading -/

/-- Parentheses bind nothing. -/
theorem Template.bound_enclose (parens : Bool) (t : Template) :
    bound (Formula.enclose parens t) = bound t := by
  cases parens <;> simp [Formula.enclose]

/-- The test is written so and stands for the atom. -/
def IsTestFor (d : Dialect) (arguments : List String) (ts : List Lexeme) (l : Test × Atom) : Prop :=
  IsTest d ts l.1 ∧ StandsFor arguments d l.1 l.2

/-- The template, written behind `index` arguments, is an expression under these connectives that
    says of these atoms what `value` does. -/
def ReadsBack (d : Dialect) (arguments : List String) (ops : List Connective) (index : Nat)
    (t : Template) (atoms : List Atom) (value : (Atom → Bool) → Bool) : Prop :=
  ∃ (ts : List Lexeme) (e : Expression (Test × Atom)),
    Reads d (Template.text d index t).toList ts ∧ Derives d (IsTestFor d arguments) ops ts e ∧
    e.leaves.map Prod.snd = atoms ∧ (∀ v, e.eval (fun l => v l.2) = value v) ∧
    e.leaves.filterMap (fun l => l.1.form.index?) = List.range' index (Template.bound t).length

/-- The template, written behind `index` arguments, is an expression under these connectives whose
    tests stand for the atoms of `shape`. -/
def ReadsAs (d : Dialect) (arguments : List String) (ops : List Connective) (index : Nat)
    (t : Template) (shape : Expression Atom) : Prop :=
  ∃ (ts : List Lexeme) (e : Expression (Test × Atom)),
    Reads d (Template.text d index t).toList ts ∧ Derives d (IsTestFor d arguments) ops ts e ∧
    e.map Prod.snd = shape ∧
    e.leaves.filterMap (fun l => l.1.form.index?) = List.range' index (Template.bound t).length

section

variable {d : Dialect} {arguments : List String} {ops : List Connective} {index : Nat}
variable {t u : Template} {shape shape' : Expression Atom}

theorem ReadsAs.lift {ops' : List Connective} (h : ReadsAs d arguments ops index t shape)
    (hops : ops <:+ ops') : ReadsAs d arguments ops' index t shape := by
  obtain ⟨ts, e, hreads, hderives, hrest⟩ := h
  exact ⟨ts, e, hreads, hderives.lift hops, hrest⟩

theorem readsAs_atom {a : Atom} (hfield : d.CanName a.field)
    (hbound : Template.bound (a.template d) <+: arguments.drop index) :
    ReadsAs d arguments [] index (a.template d) (.leaf a) := by
  obtain ⟨ts, hreads, htest⟩ := Atom.reads_atom hfield index
  refine ⟨ts, .leaf (⟨Text.pieces '.' a.field, a.form d index⟩, a), hreads,
    .leaf ⟨htest, Atom.standsFor hbound⟩, rfl, ?_⟩
  rw [← Atom.index?_form, Expression.leaves, List.filterMap_cons, List.filterMap_nil]
  cases (a.form d index).index? with
  | none => rfl
  | some i => rfl

/-- Parentheses around an expression make it one that any connective can stand beside. -/
theorem ReadsAs.enclosed (h : ReadsAs d arguments loosestFirst index t shape) :
    ReadsAs d arguments [] index (Formula.enclose true t) (.enclosed shape) := by
  obtain ⟨ts, e, hreads, hderives, hshape, hindices⟩ := h
  have htext : (Template.text d index (Formula.enclose true t)).toList
      = ['('] ++ ((Template.text d index t).toList ++ [')']) := by
    simp [Formula.enclose, Template.text, Template.text_append]
  have hclose := reads_append_closed hreads
    (fun rest => breaks_cons (.inr (.inr (.inr rfl))) _) (closed_right d)
  have hall := closed_append (closed_left d) hclose
  refine ⟨_, .enclosed e, ?_, .enclosed hderives, ?_, ?_⟩
  · rw [htext]
    exact hall.reads
  · rw [← hshape]
    rfl
  · rw [Template.bound_enclose]
    exact hindices

/-- Two expressions with the connective between them. -/
theorem ReadsAs.joined {op : Connective} (hop : op ∉ ops)
    (h : ReadsAs d arguments (op :: ops) index t shape)
    (h' : ReadsAs d arguments (op :: ops) (index + (Template.bound t).length) u shape') :
    ReadsAs d arguments (op :: ops) index (t ++ .verbatim (" " ++ d.connective op ++ " ") :: u)
      (shape.chain op shape') := by
  obtain ⟨ts, e, hreads, hderives, hshape, hindices⟩ := h
  obtain ⟨us, f, hreads', hderives', hshape', hindices'⟩ := h'
  have hword : connective? d (d.connective op) = some op := by
    cases d <;> cases op <;> rfl
  have hspelt : Reads d (d.connective op).toList [.word (d.connective op)] := by
    apply reads_keyword
    cases d <;> cases op <;> decide
  have hrest := closed_append_reads hspelt.spaced hreads'
  have hall := reads_append hreads (fun rest => breaks_cons (.inl rfl) _) hrest
  refine ⟨_, e.chain op f, ?_, hderives.chain hop hword hderives', ?_, ?_⟩
  · rw [Template.text_append, Template.text]
    simpa using hall
  · rw [Expression.map_chain, hshape, hshape']
  · rw [Expression.leaves_chain, List.filterMap_append, hindices, hindices', Template.bound_append,
      Template.bound_verbatim, List.length_append, List.range'_append_1]

end

/-! ## Formulas -/

/-- The connectives that stand outside parentheses where one joins terms: itself, and what binds
    tighter. -/
def Connective.scope : Connective → List Connective
  | .or => [.or, .and]
  | .and => [.and]

/-- The connectives that stand outside parentheses in the text of a formula. -/
def Formula.scope : Formula → List Connective
  | .atom _ => []
  | .junction op _ _ => op.scope

theorem Connective.scope_suffix (op : Connective) : op.scope <:+ loosestFirst := by
  cases op with
  | or => exact List.suffix_refl _
  | and => exact List.suffix_cons Connective.or [Connective.and]

theorem Formula.scope_suffix (f : Formula) : f.scope <:+ loosestFirst := by
  cases f with
  | atom a => exact List.nil_suffix
  | junction op grouped terms => exact op.scope_suffix

/-- A term without parentheses fits between the connectives that join it. -/
theorem Formula.scope_of_not_clashes {op : Connective} {f : Formula} (h : f.clashes op = false) :
    f.scope <:+ op.scope := by
  cases f with
  | atom a => exact List.nil_suffix
  | junction inner grouped terms =>
    have hinner : inner = op := by simpa [clashes] using h
    rw [hinner]
    exact List.suffix_refl _

/-- The values of joined templates start where those of the first one do, then those of the
    second. -/
theorem prefix_drop_append {α : Type} {xs ys l : List α} {n : Nat} (h : xs ++ ys <+: l.drop n) :
    xs <+: l.drop n ∧ ys <+: l.drop (n + xs.length) := by
  obtain ⟨rest, hrest⟩ := h
  constructor
  · exact ⟨ys ++ rest, by rw [← List.append_assoc, hrest]⟩
  · refine ⟨rest, ?_⟩
    rw [← List.drop_drop, ← hrest, List.append_assoc, List.drop_left]

section

variable {d : Dialect} {arguments : List String}

/-- A term in its place is an expression between the connectives that join it, in parentheses or
    not. -/
theorem readsAs_term (op : Connective) {term : Formula} {index : Nat} {shape : Expression Atom}
    (grouped : Bool) (h : ReadsAs d arguments term.scope index (term.template d) shape) :
    ReadsAs d arguments op.scope index
      (Formula.enclose (grouped || term.clashes op) (term.template d))
      (shape.enclose (grouped || term.clashes op)) := by
  cases hparens : grouped || term.clashes op with
  | true => exact (h.lift term.scope_suffix).enclosed.lift List.nil_suffix
  | false => exact h.lift (Formula.scope_of_not_clashes (Bool.or_eq_false_iff.1 hparens).2)

/-- **Formulas are read as their expression.**  The text of a formula, written behind any
    arguments, is derived as the expression that the formula alone decides. -/
theorem readsAs_formula {f : Formula} {shape : Expression Atom} (h : f.IsParsedAs shape)
    (hfields : ∀ a ∈ f.atoms, d.CanName a.field) {index : Nat}
    (hbound : Template.bound (f.template d) <+: arguments.drop index) :
    ReadsAs d arguments f.scope index (f.template d) shape := by
  induction h generalizing index with
  | atom a =>
    rw [Formula.template] at hbound ⊢
    exact readsAs_atom (hfields a (by rw [Formula.atoms]; exact List.mem_cons_self)) hbound
  | @last op grouped term e h ih =>
    simp only [Formula.template, Formula.joined, Formula.atoms, Formula.atomsOf,
      List.append_nil] at hfields hbound ⊢
    rw [Template.bound_enclose] at hbound
    exact readsAs_term op grouped (ih hfields hbound)
  | @more op grouped term next rest e f h hrest ih ih' =>
    simp only [Formula.template, Formula.atoms] at hfields hbound ih' ⊢
    rw [Formula.atomsOf, List.forall_mem_append] at hfields
    rw [Formula.joined, Template.bound_append, Template.bound_verbatim] at hbound
    -- the other terms are numbered on from the arguments of the first one
    obtain ⟨hfirst, hothers⟩ := prefix_drop_append hbound
    rw [Template.bound_enclose] at hfirst
    have hterm := readsAs_term op grouped (ih hfields.1 hfirst)
    have hrest' := ih' hfields.2 hothers
    obtain ⟨tighter, hscope, hop⟩ : ∃ tighter, op.scope = op :: tighter ∧ op ∉ tighter := by
      cases op <;> exact ⟨_, rfl, by decide⟩
    rw [Formula.scope, hscope] at hrest' ⊢
    rw [hscope] at hterm
    rw [Formula.joined]
    exact hterm.joined hop hrest'

/-- **Formulas read back.**  The text of a formula, written behind any arguments, is one expression
    of its atoms with its value. -/
theorem readsBack_formula {f : Formula} (whole : f.isWhole = true)
    (hfields : ∀ a ∈ f.atoms, d.CanName a.field) {index : Nat}
    (hbound : Template.bound (f.template d) <+: arguments.drop index) :
    ReadsBack d arguments f.scope index (f.template d) f.atoms (fun v => f.eval v) := by
  obtain ⟨shape, hshape⟩ := Formula.exists_isParsedAs whole
  obtain ⟨ts, e, hreads, hderives, hmap, hindices⟩ := readsAs_formula hshape hfields hbound
  refine ⟨ts, e, hreads, hderives, ?_, fun v => ?_, hindices⟩
  · rw [← hshape.leaves, ← hmap, Expression.leaves_map]
  · show e.eval (fun l => v l.2) = f.eval v
    rw [← hshape.eval v, ← hmap, Expression.eval_map]

end

/-- **Reading back.**  The text of a formula with terms in every junction, its fields named as the
    dialect can name them, parses in exactly one way.  Its tests, labelled `l.2` with what they
    stand for, are the atoms of the formula from left to right; given the value of each atom it has
    the value of the formula; and its placeholders count the arguments from zero on. -/
theorem Formula.predicate_reads_back {d : Dialect} {f : Formula} (whole : f.isWhole = true)
    (hfields : ∀ a ∈ f.atoms, d.CanName a.field) :
    ∃ e : Expression (Test × Atom),
      (∀ parsed, Parses d (f.predicate d).expression parsed ↔ parsed = e.map Prod.fst) ∧
      (∀ v, e.eval (fun l => v l.2) = f.eval v) ∧
      e.leaves.map Prod.snd = f.atoms ∧
      (∀ l ∈ e.leaves, StandsFor (f.predicate d).arguments d l.1 l.2) ∧
      e.leaves.filterMap (fun l => l.1.form.index?)
        = List.range (f.predicate d).arguments.length ∧
      ∀ a ∈ f.atoms, ∃ ts path, lexemes? d (d.identifier a.field) = some ts ∧ Path d ts path ∧
        Text.SplitsInto '.' a.field path := by
  have htext : (f.predicate d).expression = Template.text d 0 (f.template d) := by
    rw [predicate_eq]
  have harguments : (f.predicate d).arguments = Template.bound (f.template d) := by
    rw [predicate_eq]
  have hbound : Template.bound (f.template d) <+: (f.predicate d).arguments.drop 0 := by
    rw [harguments]
    exact List.prefix_refl _
  obtain ⟨ts, e, hreads, hderives, hatoms, hvalue, hindices⟩ :=
    readsBack_formula whole hfields hbound
  rw [← htext] at hreads
  have hparses : Parses d (f.predicate d).expression (e.map Prod.fst) :=
    ⟨ts, hreads.lexemes?_eq, (hderives.lift f.scope_suffix).map fun ts l h => h.1⟩
  refine ⟨e, ?_, hvalue, hatoms, ?_, ?_, ?_⟩
  · intro parsed
    exact ⟨fun h => h.unique hparses, fun h => h ▸ hparses⟩
  · intro l hl
    obtain ⟨ts, htest⟩ := hderives.exists_leaf hl
    exact htest.2
  · rw [hindices, harguments, List.range_eq_range']
  · intro a ha
    obtain ⟨ts, hreads, hpath⟩ := reads_identifier (hfields a ha)
    exact ⟨ts, _, hreads.lexemes?_eq, hpath, Text.splitsInto_iff.2 rfl⟩

/-- A formula with both kinds of junction, in Dynamic LINQ. -/
theorem Formula.predicate_reads_back_mixed :
    let f : Formula := .junction .and false [.atom (.compare "Owner.Age" .ge "18"),
      .junction .or false [.atom (.text "Name" .contains "x"), .atom (.null "Note" .eq)]]
    f.isWhole = true ∧ (∀ a ∈ f.atoms, Dialect.dynamicLinq.CanName a.field) ∧
      (f.predicate .dynamicLinq).expression
        = "Owner.Age >= @0 and (Name.Contains(@1) or Note == null)" ∧
      ∃ e : Expression (Test × Atom),
        (∀ parsed, Parses .dynamicLinq (f.predicate .dynamicLinq).expression parsed ↔
          parsed = e.map Prod.fst) ∧
        (∀ v, e.eval (fun l => v l.2) = f.eval v) ∧ e.leaves.map Prod.snd = f.atoms := by
  intro f
  have whole : f.isWhole = true := by decide
  have hfields : ∀ a ∈ f.atoms, Dialect.dynamicLinq.CanName a.field := by decide +kernel
  obtain ⟨e, hparses, hvalue, hatoms, -⟩ := Formula.predicate_reads_back whole hfields
  exact ⟨whole, hfields, by decide, e, hparses, hvalue, hatoms⟩

end FilterPlan
