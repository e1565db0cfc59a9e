/-
  Formulas: what a filter says, before any text is written.

  1. **Atoms** — a field compared with a value, a field compared with null, or a field whose text
     is matched.  Every value of an atom becomes one bound argument; null needs none.
  2. **Formulas** — atoms under the connectives.  A junction is either grouped, with each of its
     terms in parentheses, or bare; the choice never changes what it says.
  3. **Junctions of nothing** are not built: `grouped?` and `bare?` give no formula for no terms.
-/

namespace FilterPlan

/-! ## Atoms -/

/-- How two values are compared. -/
inductive Comparison
  | eq
  | ne
  | gt
  | ge
  | lt
  | le
deriving DecidableEq

/-- How a text is matched against another. -/
inductive TextTest
  | startsWith
  | endsWith
  | contains
deriving DecidableEq

/-- A single test of a single field. -/
inductive Atom
  | compare (field : String) (op : Comparison) (value : String)
  | null (field : String) (op : Comparison)
  | text (field : String) (test : TextTest) (value : String)
deriving DecidableEq

/-! ## Formulas -/

/-- The connectives of formulas. -/
inductive Connective
  | or
  | and
deriving DecidableEq

/-- Atoms joined by connectives. -/
inductive Formula
  | atom (a : Atom)
  | junction (op : Connective) (grouped : Bool) (terms : List Formula)

namespace Formula

/-- The terms joined, each in parentheses. -/
def grouped? (op : Connective) : List Formula → Option Formula
  | [] => none
  | terms => some (.junction op true terms)

/-- The terms joined without parentheses of their own. -/
def bare? (op : Connective) : List Formula → Option Formula
  | [] => none
  | terms => some (.junction op false terms)

end Formula

end FilterPlan
