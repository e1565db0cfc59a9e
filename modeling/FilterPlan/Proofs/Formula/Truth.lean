/-
  When a formula holds.

  1. **Values** — given which atoms hold, `eval` says whether a formula does: a junction under OR
     when one of its terms does, a junction under AND when all of them do.  Parentheses say
     nothing.
  2. **Content** — `atoms` lists the atoms from left to right, and `isWhole` asks for a formula
     with terms in every junction.
-/
import FilterPlan.Formula

namespace FilterPlan

namespace Connective

/-- The value of no terms joined. -/
def unit : Connective → Bool
  | .or => false
  | .and => true

/-- The value of two terms joined. -/
def apply : Connective → Bool → Bool → Bool
  | .or, a, b => a || b
  | .and, a, b => a && b

theorem apply_unit (op : Connective) (b : Bool) : op.apply b op.unit = b := by
  cases op <;> cases b <;> rfl

theorem apply_assoc (op : Connective) (a b c : Bool) :
    op.apply (op.apply a b) c = op.apply a (op.apply b c) := by
  cases op <;> cases a <;> rfl

end Connective

namespace Formula

/-- Induction over formulas: a junction may rely on all of its terms. -/
@[elab_as_elim]
theorem induction {motive : Formula → Prop} (atom : ∀ a, motive (.atom a))
    (junction : ∀ op grouped terms, (∀ term ∈ terms, motive term) →
      motive (.junction op grouped terms)) : ∀ f, motive f
  | .atom a => atom a
  | .junction op grouped terms =>
    junction op grouped terms fun term _ => induction atom junction term

/-! ## Values -/

mutual

/-- The value of a formula, given the values of its atoms. -/
def eval (v : Atom → Bool) : Formula → Bool
  | .atom a => v a
  | .junction op _ terms => evalTerms v op terms

/-- The value of joined terms. -/
def evalTerms (v : Atom → Bool) (op : Connective) : List Formula → Bool
  | [] => op.unit
  | term :: rest => op.apply (term.eval v) (evalTerms v op rest)

end

@[simp] theorem eval_atom (v : Atom → Bool) (a : Atom) : (atom a).eval v = v a := by
  rw [eval]

@[simp] theorem eval_junction (v : Atom → Bool) (op : Connective) (grouped : Bool)
    (terms : List Formula) : (junction op grouped terms).eval v = evalTerms v op terms := by
  rw [eval]

theorem evalTerms_or_iff {v : Atom → Bool} {terms : List Formula} :
    evalTerms v .or terms = true ↔ ∃ term ∈ terms, term.eval v = true := by
  induction terms with
  | nil => simp [evalTerms, Connective.unit]
  | cons term rest ih => simp [evalTerms, Connective.apply, ih]

theorem evalTerms_and_iff {v : Atom → Bool} {terms : List Formula} :
    evalTerms v .and terms = true ↔ ∀ term ∈ terms, term.eval v = true := by
  induction terms with
  | nil => simp [evalTerms, Connective.unit]
  | cons term rest ih => simp [evalTerms, Connective.apply, ih]

/-! ## Content -/

mutual

/-- The atoms of a formula, from left to right. -/
def atoms : Formula → List Atom
  | .atom a => [a]
  | .junction _ _ terms => atomsOf terms

/-- The atoms of terms in turn. -/
def atomsOf : List Formula → List Atom
  | [] => []
  | term :: rest => term.atoms ++ atomsOf rest

end

mutual

/-- Holds of formulas without a junction of nothing. -/
def isWhole : Formula → Bool
  | .atom _ => true
  | .junction _ _ terms => !terms.isEmpty && areWhole terms

/-- Holds of lists of such formulas. -/
def areWhole : List Formula → Bool
  | [] => true
  | term :: rest => term.isWhole && areWhole rest

end

theorem atomsOf_eq_flatMap (terms : List Formula) : atomsOf terms = terms.flatMap atoms := by
  induction terms with
  | nil => rfl
  | cons term rest ih => rw [atomsOf, ih, List.flatMap_cons]

theorem areWhole_iff {terms : List Formula} :
    areWhole terms = true ↔ ∀ term ∈ terms, term.isWhole = true := by
  induction terms with
  | nil => simp [areWhole]
  | cons term rest ih => simp [areWhole, ih]

end Formula

/-- The field that an atom tests. -/
def Atom.field : Atom → String
  | .compare field _ _ => field
  | .null field _ => field
  | .text field _ _ => field

end FilterPlan
