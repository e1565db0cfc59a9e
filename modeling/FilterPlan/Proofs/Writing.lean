/-
  Writing only appends, and the argument list is the counter.

  1. **Scripts** — a script is a text in which the placeholders are told apart from what only looks
     like one, so it makes sense to renumber them.
  2. **Templates** — a template leaves a script.  Numbered on from further up, it leaves the same
     one with every placeholder renumbered upward (`script_add`).
  3. **Writings** — `Writing.script` is what a writing leaves on an empty draft, and
     `Writing.values` lists what it binds.
  4. **The crux (`write_eq`)** — on any draft, a writing leaves its script renumbered upward by the
     arguments held, and adds its values behind them.  So the placeholders of a run are numbered
     without a gap.
-/
import FilterPlan.Writing
import FilterPlan.Proofs.Expression.Dialects

namespace FilterPlan

/-! ## Scripts -/

/-- A stretch of what has been written. -/
inductive Stretch
  /-- Text as it is, whatever it looks like. -/
  | verbatim (text : String)
  /-- The placeholder of the argument at this index. -/
  | placeholder (index : Nat)

/-- Stretches in the order in which they were written. -/
abbrev Script := List Stretch

/-- The stretch with its placeholder renumbered upward. -/
def Stretch.renumber (held : Nat) : Stretch → Stretch
  | .verbatim text => .verbatim text
  | .placeholder index => .placeholder (held + index)

/-- The index of a placeholder. -/
def Stretch.index? : Stretch → Option Nat
  | .verbatim _ => none
  | .placeholder index => some index

/-- The stretch in a dialect. -/
def Stretch.text (d : Dialect) : Stretch → String
  | .verbatim text => text
  | .placeholder index => d.placeholder index

namespace Script

/-- The script with every placeholder renumbered upward. -/
def renumber (held : Nat) (s : Script) : Script := s.map (Stretch.renumber held)

/-- The indices of the placeholders, in the order in which they were written. -/
def indices (s : Script) : List Nat := s.filterMap Stretch.index?

/-- The script in a dialect. -/
def text (d : Dialect) : Script → String
  | [] => ""
  | stretch :: rest => stretch.text d ++ Script.text d rest

@[simp] theorem renumber_cons (held : Nat) (stretch : Stretch) (s : Script) :
    renumber held (stretch :: s) = stretch.renumber held :: renumber held s := rfl

@[simp] theorem renumber_append (held : Nat) (s t : Script) :
    renumber held (s ++ t) = renumber held s ++ renumber held t := List.map_append

@[simp] theorem renumber_zero (s : Script) : s.renumber 0 = s := by
  induction s with
  | nil => rfl
  | cons stretch s ih =>
    rw [renumber_cons, ih]
    cases stretch with
    | verbatim text => rfl
    | placeholder index => rw [Stretch.renumber, Nat.zero_add]

theorem renumber_renumber (held more : Nat) (s : Script) :
    (s.renumber more).renumber held = s.renumber (held + more) := by
  induction s with
  | nil => rfl
  | cons stretch s ih =>
    rw [renumber_cons, renumber_cons, renumber_cons, ih]
    cases stretch with
    | verbatim text => rfl
    | placeholder index => rw [Stretch.renumber, Stretch.renumber, Stretch.renumber, Nat.add_assoc]

@[simp] theorem indices_append (s t : Script) : indices (s ++ t) = indices s ++ indices t :=
  List.filterMap_append

theorem indices_renumber (held : Nat) (s : Script) :
    (s.renumber held).indices = s.indices.map (held + ·) := by
  rw [renumber, indices, indices, List.filterMap_map, List.map_filterMap]
  apply List.filterMap_congr
  intro stretch _
  cases stretch <;> rfl

theorem text_append (d : Dialect) (s t : Script) : text d (s ++ t) = text d s ++ text d t := by
  induction s with
  | nil => rw [List.nil_append, text, String.empty_append]
  | cons stretch s ih => rw [List.cons_append, text, text, ih, String.append_assoc]

end Script

/-! ## Templates -/

namespace Template

/-- What a template leaves, its first placeholder standing for the argument at this index. -/
def script : Nat → Template → Script
  | _, [] => []
  | next, .verbatim text :: rest => .verbatim text :: Template.script next rest
  | next, .argument _ :: rest => .placeholder next :: Template.script (next + 1) rest

theorem text_script (d : Dialect) (next : Nat) (t : Template) :
    (script next t).text d = text d next t := by
  induction t generalizing next with
  | nil => rfl
  | cons p t ih =>
    cases p with
    | verbatim s => rw [script, Script.text, text, ih, Stretch.text]
    | argument value => rw [script, Script.text, text, ih, Stretch.text]

/-- **Renumbering.**  Where more arguments are held, a template leaves the same script with its
    placeholders renumbered upward. -/
theorem script_add (held next : Nat) (t : Template) :
    script (held + next) t = (script next t).renumber held := by
  induction t generalizing next with
  | nil => rfl
  | cons p t ih =>
    cases p with
    | verbatim s => rw [script, script, Script.renumber_cons, Stretch.renumber, ih]
    | argument value =>
      rw [script, script, Script.renumber_cons, Stretch.renumber, ← ih, Nat.add_assoc]

/-- **Counting.**  The placeholders are numbered in turn, one for each value that is bound. -/
theorem indices_script (next : Nat) (t : Template) :
    (script next t).indices = List.range' next (bound t).length := by
  induction t generalizing next with
  | nil => rfl
  | cons p t ih =>
    cases p with
    | verbatim s => exact ih next
    | argument value =>
      rw [bound_argument, List.length_cons, List.range'_succ, ← ih]
      rfl

end Template

/-! ## Writings -/

theorem OrderingKey.bound_clauseTemplate (d : Dialect) (keys : List OrderingKey) :
    Template.bound (clauseTemplate d keys) = [] := by
  induction keys with
  | nil => rfl
  | cons k rest ih =>
    cases rest with
    | nil => rfl
    | cons next rest =>
      rw [clauseTemplate, List.map_cons, List.map_cons, List.intercalate_cons_cons,
        Template.bound_append, Template.bound_append, ← List.map_cons]
      exact ih

namespace Writing

/-- The values that a writing binds: those of a formula are what its atoms bind, from left to
    right. -/
def values (d : Dialect) : Writing → List String
  | .argument value => [value]
  | .formula f => f.atoms.filterMap (Atom.argument? d)
  | .verbatim _ | .identifier _ | .ordering _ => []

/-- What a writing leaves on an empty draft. -/
def script (d : Dialect) (w : Writing) : Script := Template.script 0 (w.template d)

/-- What writings leave on an empty draft: each is numbered on from those before it. -/
def scriptOf (d : Dialect) : List Writing → Script
  | [] => []
  | w :: rest => w.script d ++ (scriptOf d rest).renumber (w.values d).length

theorem bound_template (d : Dialect) (w : Writing) :
    Template.bound (w.template d) = w.values d := by
  cases w with
  | verbatim text => rfl
  | identifier field => rfl
  | argument value => rfl
  | formula f => exact f.bound_template d
  | ordering keys => exact OrderingKey.bound_clauseTemplate d keys

theorem indices_script (d : Dialect) (w : Writing) :
    (w.script d).indices = List.range (w.values d).length := by
  rw [script, Template.indices_script, bound_template, List.range_eq_range']

/-- The placeholders of a run are numbered without a gap. -/
theorem indices_scriptOf (d : Dialect) (ws : List Writing) :
    (scriptOf d ws).indices = List.range (ws.flatMap (values d)).length := by
  induction ws with
  | nil => rfl
  | cons w rest ih =>
    rw [scriptOf, Script.indices_append, Script.indices_renumber, indices_script, ih,
      List.flatMap_cons, List.length_append, List.range_add]

end Writing

namespace Draft

theorem writeAll_cons (d : Dialect) (draft : Draft) (w : Writing) (ws : List Writing) :
    draft.writeAll d (w :: ws) = (draft.write d w).writeAll d ws := rfl

/-- **One writing.**  It leaves its script, renumbered upward by the arguments that are held, and
    its values behind them. -/
theorem write_eq (d : Dialect) (draft : Draft) (w : Writing) :
    draft.write d w = ⟨draft.text ++ ((w.script d).renumber draft.arguments.length).text d,
      draft.arguments ++ w.values d⟩ := by
  rw [write, push_eq, Writing.script, ← Template.script_add, Nat.add_zero, Template.text_script,
    Writing.bound_template]

/-- **A run.**  It leaves what its writings leave in turn. -/
theorem writeAll_eq (d : Dialect) (draft : Draft) (ws : List Writing) :
    draft.writeAll d ws
      = ⟨draft.text ++ ((Writing.scriptOf d ws).renumber draft.arguments.length).text d,
        draft.arguments ++ ws.flatMap (Writing.values d)⟩ := by
  -- for every draft: the writings behind the first one meet the draft that it leaves
  induction ws generalizing draft with
  | nil =>
    show draft = ⟨draft.text ++ "", draft.arguments ++ []⟩
    rw [String.append_empty, List.append_nil]
  | cons w rest ih =>
    rw [writeAll_cons, ih, write_eq, Writing.scriptOf, Script.renumber_append, Script.text_append,
      Script.renumber_renumber, List.length_append, List.flatMap_cons, String.append_assoc,
      List.append_assoc]

/-- On an empty draft, scripts keep their numbers. -/
theorem write_empty (d : Dialect) (w : Writing) :
    ({ } : Draft).write d w = ⟨(w.script d).text d, w.values d⟩ := by
  rw [write_eq]
  simp

theorem writeAll_empty (d : Dialect) (ws : List Writing) :
    ({ } : Draft).writeAll d ws
      = ⟨(Writing.scriptOf d ws).text d, ws.flatMap (Writing.values d)⟩ := by
  rw [writeAll_eq]
  simp

/-- **Writing appends.**  A writing keeps whatever the draft holds.  It adds the values that it binds
    to the arguments: those of the atoms of a formula from left to right, LIKE patterns for the text
    tests of PostgreSQL, and none for an ordering.  The text that it adds is the text that it leaves
    on an empty draft, every placeholder renumbered upward by the number of arguments held.  So it
    is with runs; on an empty draft, the placeholders of a run are numbered from zero on, each
    number once and in order, as many as there are arguments. -/
theorem writing_appends (d : Dialect) :
    (∀ w : Writing,
      ({ } : Draft).write d w = ⟨(w.script d).text d, w.values d⟩ ∧
      (w.script d).indices = List.range (w.values d).length ∧
      ∀ draft : Draft, draft.write d w
        = ⟨draft.text ++ ((w.script d).renumber draft.arguments.length).text d,
          draft.arguments ++ w.values d⟩) ∧
    ∀ ws : List Writing,
      ({ } : Draft).writeAll d ws
        = ⟨(Writing.scriptOf d ws).text d, ws.flatMap (Writing.values d)⟩ ∧
      (Writing.scriptOf d ws).indices = List.range (ws.flatMap (Writing.values d)).length ∧
      ∀ draft : Draft, draft.writeAll d ws
        = ⟨draft.text ++ ((Writing.scriptOf d ws).renumber draft.arguments.length).text d,
          draft.arguments ++ ws.flatMap (Writing.values d)⟩ := by
  refine ⟨fun w => ⟨write_empty d w, w.indices_script d, ?_⟩,
    fun ws => ⟨writeAll_empty d ws, Writing.indices_scriptOf d ws, ?_⟩⟩
  · intro draft
    exact draft.write_eq d w
  · intro draft
    exact draft.writeAll_eq d ws

example : ({ text := "$1 = ", arguments := ["x"] } : Draft).write .postgres
    (.formula (.junction .or true [.atom (.text "$1" .contains "%"), .junction .and false []]))
      = ⟨"$1 = (\"$1\" LIKE $2 ESCAPE '\\') OR ()", ["x", "%\\%%"]⟩ := by decide

end Draft

end FilterPlan
