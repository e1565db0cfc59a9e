/-
  The text that a template writes.

  1. **Text** — `Template.text` is what a template writes where so many arguments are held: its
     placeholders are numbered on from there.
  2. **Arguments** — `Template.bound` lists the values that it binds.
  3. **The crux (`push_eq`)** — pushing a template appends that text and those values, whatever the
     draft holds otherwise.
-/
import FilterPlan.Filter

namespace FilterPlan

/-! ## Text and arguments -/

/-- The value a piece binds, if it binds one. -/
def Piece.bound? : Piece → Option String
  | .verbatim _ => none
  | .argument value => some value

namespace Template

/-- The text of a template, its first placeholder standing for the argument at this index. -/
def text (d : Dialect) : Nat → Template → String
  | _, [] => ""
  | next, .verbatim text :: rest => text ++ Template.text d next rest
  | next, .argument _ :: rest => d.placeholder next ++ Template.text d (next + 1) rest

/-- The values that a template binds, in order. -/
def bound (t : Template) : List String := t.filterMap Piece.bound?

@[simp] theorem bound_nil : bound [] = [] := rfl

@[simp] theorem bound_verbatim (s : String) (t : Template) :
    bound (.verbatim s :: t) = bound t := rfl

@[simp] theorem bound_argument (value : String) (t : Template) :
    bound (.argument value :: t) = value :: bound t := rfl

@[simp] theorem bound_append (t u : Template) : bound (t ++ u) = bound t ++ bound u :=
  List.filterMap_append

/-- What a template writes after another one is numbered on from the arguments of that one. -/
theorem text_append (d : Dialect) (next : Nat) (t u : Template) :
    text d next (t ++ u) = text d next t ++ text d (next + (bound t).length) u := by
  induction t generalizing next with
  | nil => rw [List.nil_append, text, String.empty_append, bound_nil, List.length_nil, Nat.add_zero]
  | cons p t ih =>
    cases p with
    | verbatim s => rw [List.cons_append, text, text, ih, bound_verbatim, String.append_assoc]
    | argument value =>
      have hnext : next + 1 + (bound t).length = next + ((bound t).length + 1) := by omega
      rw [List.cons_append, text, text, ih, bound_argument, List.length_cons, String.append_assoc,
        hnext]

end Template

/-- **Pushing appends.**  A template adds its text and its values to a draft, and nothing that was
    there changes. -/
theorem Draft.push_eq (d : Dialect) (draft : Draft) (t : Template) :
    draft.push d t = ⟨draft.text ++ Template.text d draft.arguments.length t,
      draft.arguments ++ Template.bound t⟩ := by
  induction t generalizing draft with
  | nil => rw [Draft.push_nil, Template.text, String.append_empty, Template.bound_nil,
      List.append_nil]
  | cons p t ih =>
    rw [Draft.push_cons, ih]
    cases p with
    | verbatim s => rw [Draft.add, Template.text, Template.bound_verbatim, String.append_assoc]
    | argument value =>
      rw [Draft.add, Template.text, Template.bound_argument, String.append_assoc,
        List.append_assoc, List.length_append, List.length_singleton, List.singleton_append]

/-- A formula is written where no argument is held yet. -/
theorem Formula.predicate_eq (d : Dialect) (f : Formula) :
    f.predicate d = ⟨Template.text d 0 (f.template d), Template.bound (f.template d)⟩ := by
  rw [predicate, Draft.push_eq, String.empty_append, List.nil_append]
  rfl

end FilterPlan
