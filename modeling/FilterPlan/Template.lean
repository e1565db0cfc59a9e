/-
  Text with places for arguments.

  1. **Templates** — a template is a list of pieces: text to be written as it is, and values to be
     bound, in the order in which they are met.  A template does not know the numbers of its
     placeholders.
  2. **Drafts** — a draft is text written so far together with the arguments bound so far.  Pushing
     a template only appends (`Draft.push_eq`), and the next placeholder is always the number of
     arguments held: the argument list is the counter.
-/
import FilterPlan.Dialect

namespace FilterPlan

/-! ## Templates -/

/-- A piece of a template. -/
inductive Piece
  /-- Written as it is. -/
  | verbatim (text : String)
  /-- Bound as an argument, a placeholder written in its place. -/
  | argument (value : String)
deriving DecidableEq

/-- Pieces in the order in which they are written. -/
abbrev Template := List Piece

/-! ## Drafts -/

/-- A text under construction and the arguments of its placeholders. -/
structure Draft where
  text : String := ""
  arguments : List String := []
deriving DecidableEq

namespace Draft

/-- The draft with one more piece. -/
def add (d : Dialect) (draft : Draft) : Piece → Draft
  | .verbatim text => { draft with text := draft.text ++ text }
  | .argument value =>
    { text := draft.text ++ d.placeholder draft.arguments.length
      arguments := draft.arguments ++ [value] }

/-- The draft with a template at its end. -/
def push (d : Dialect) (draft : Draft) (template : Template) : Draft :=
  template.foldl (add d) draft

@[simp] theorem push_nil (d : Dialect) (draft : Draft) : draft.push d [] = draft := rfl

@[simp] theorem push_cons (d : Dialect) (draft : Draft) (p : Piece) (t : Template) :
    draft.push d (p :: t) = (draft.add d p).push d t := rfl

example : (({ } : Draft).push .postgres [.verbatim "a = ", .argument "x", .verbatim " OR b = ",
    .argument "y"]) = ⟨"a = $1 OR b = $2", ["x", "y"]⟩ := by decide

end Draft

end FilterPlan
