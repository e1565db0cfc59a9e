/-
  What is left of formulas and templates without their values.

  1. **Templates** — the outline of a template binds the empty text wherever a value was bound.  The
     text does not change, and neither does the number of arguments.
  2. **Formulas** — the outline of a formula asks every atom for the empty text.
  3. **The crux (`predicate_of_outline`)** — formulas with one outline are written as one text:
     values are bound and never written.
-/
import FilterPlan.Filter
import FilterPlan.Proofs.Formula.Truth
import FilterPlan.Proofs.Template.Text

namespace FilterPlan

/-! ## Templates -/

/-- The piece without the value that it binds. -/
def Piece.outline : Piece → Piece
  | .verbatim text => .verbatim text
  | .argument _ => .argument ""

namespace Template

/-- The template without its values. -/
def outline (t : Template) : Template := t.map Piece.outline

@[simp] theorem outline_nil : outline [] = [] := rfl

@[simp] theorem outline_cons (p : Piece) (t : Template) :
    outline (p :: t) = p.outline :: outline t := rfl

@[simp] theorem outline_append (t u : Template) : outline (t ++ u) = outline t ++ outline u :=
  List.map_append

theorem text_outline (d : Dialect) (next : Nat) (t : Template) :
    text d next (outline t) = text d next t := by
  induction t generalizing next with
  | nil => rfl
  | cons p t ih =>
    cases p with
    | verbatim s => rw [outline_cons, Piece.outline, text, text, ih]
    | argument value => rw [outline_cons, Piece.outline, text, text, ih]

theorem length_bound_outline (t : Template) : (bound (outline t)).length = (bound t).length := by
  induction t with
  | nil => rfl
  | cons p t ih =>
    cases p with
    | verbatim s => exact ih
    | argument value =>
      rw [outline_cons, Piece.outline, bound_argument, bound_argument, List.length_cons,
        List.length_cons, ih]

theorem outline_enclose (parens : Bool) (t : Template) :
    outline (Formula.enclose parens t) = Formula.enclose parens (outline t) := by
  cases parens with
  | true => simp [Formula.enclose, Piece.outline]
  | false => rfl

end Template

/-! ## Formulas -/

/-- The atom without its value. -/
def Atom.outline : Atom → Atom
  | .compare field op _ => .compare field op ""
  | .null field op => .null field op
  | .text field test _ => .text field test ""

theorem Atom.template_outline (d : Dialect) (a : Atom) :
    Template.outline (a.outline.template d) = Template.outline (a.template d) := by
  cases a with
  | compare field op value => rfl
  | null field op => rfl
  | text field test value => cases d <;> rfl

namespace Formula

mutual

/-- The formula without its values. -/
def outline : Formula → Formula
  | .atom a => .atom a.outline
  | .junction op grouped terms => .junction op grouped (outlines terms)

/-- The outlines of terms in turn. -/
def outlines : List Formula → List Formula
  | [] => []
  | term :: rest => term.outline :: outlines rest

end

theorem outlines_eq_map (terms : List Formula) : outlines terms = terms.map outline := by
  induction terms with
  | nil => rfl
  | cons term rest ih => rw [outlines, ih, List.map_cons]

theorem grouped?_outline (op : Connective) (terms : List Formula) :
    (grouped? op terms).map outline = grouped? op (terms.map outline) := by
  rw [← outlines_eq_map]
  cases terms with
  | nil => rfl
  | cons term rest =>
    show some (outline _) = _
    rw [outline]
    rfl

theorem bare?_outline (op : Connective) (terms : List Formula) :
    (bare? op terms).map outline = bare? op (terms.map outline) := by
  rw [← outlines_eq_map]
  cases terms with
  | nil => rfl
  | cons term rest =>
    show some (outline _) = _
    rw [outline]
    rfl

/-- Whether a term needs parentheses does not depend on its values. -/
theorem clashes_outline (op : Connective) (f : Formula) :
    f.outline.clashes op = f.clashes op := by
  cases f with
  | atom a => rw [outline]; rfl
  | junction inner grouped terms => rw [outline]; rfl

theorem joined_outline {d : Dialect} {op : Connective} {grouped : Bool} {terms : List Formula}
    (hterms : ∀ term ∈ terms, Template.outline (term.outline.template d)
      = Template.outline (term.template d)) :
    Template.outline (joined d op grouped (outlines terms))
      = Template.outline (joined d op grouped terms) := by
  induction terms with
  | nil => rw [outlines]
  | cons term rest ih =>
    have hterm := hterms term List.mem_cons_self
    have hrest := ih fun t ht => hterms t (List.mem_cons_of_mem term ht)
    cases rest with
    | nil =>
      simp only [outlines, joined, Template.outline_enclose, clashes_outline, hterm]
    | cons next rest =>
      rw [outlines] at hrest ⊢
      rw [outlines, joined, joined, Template.outline_append, Template.outline_append,
        Template.outline_cons, Template.outline_cons, hrest, Template.outline_enclose,
        Template.outline_enclose, clashes_outline, hterm]

theorem template_outline (d : Dialect) (f : Formula) :
    Template.outline (f.outline.template d) = Template.outline (f.template d) := by
  induction f using Formula.induction with
  | atom a =>
    rw [outline, template, template]
    exact a.template_outline d
  | junction op grouped terms ih =>
    rw [outline, template, template]
    exact joined_outline ih

/-- **Values are bound.**  Formulas that differ in their values only are written as one text, with
    as many arguments. -/
theorem predicate_of_outline (d : Dialect) {f g : Formula} (h : f.outline = g.outline) :
    (f.predicate d).expression = (g.predicate d).expression ∧
      (f.predicate d).arguments.length = (g.predicate d).arguments.length := by
  have htemplate : Template.outline (f.template d) = Template.outline (g.template d) := by
    rw [← template_outline, h, template_outline]
  rw [predicate_eq, predicate_eq]
  constructor
  · rw [← Template.text_outline, htemplate, Template.text_outline]
  · rw [← Template.length_bound_outline, htemplate, Template.length_bound_outline]

end Formula

end FilterPlan
