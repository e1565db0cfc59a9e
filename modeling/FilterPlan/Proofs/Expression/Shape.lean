/-
  The expression that a formula is parsed as.

  1. **Chains** — two expressions with a connective between them are one.  Where the first is
     itself joined by this connective, without parentheses, the second goes behind its last member:
     a parser that takes members one by one cannot tell the two apart.
  2. **The crux (`IsParsedAs`)** — a formula alone decides its expression, with the same atoms from
     left to right and the same value.  No dialect has a part in it.
-/
import FilterPlan.Formula.Template
import FilterPlan.Proofs.Expression.Grammar

namespace FilterPlan

/-! ## Chains -/

namespace Expression

variable {α β : Type} {e f : Expression α}

/-- Two expressions with the connective between them. -/
def chain (op : Connective) : Expression α → Expression α → Expression α
  | .joined op' first rest, f =>
    if op' = op then .joined op first (rest.chain op f) else .joined op (.joined op' first rest) f
  | e, f => .joined op e f

/-- The expression, in parentheses if these are asked for. -/
def enclose (parens : Bool) (e : Expression α) : Expression α :=
  if parens then .enclosed e else e

theorem leaves_chain (op : Connective) (e f : Expression α) :
    (e.chain op f).leaves = e.leaves ++ f.leaves := by
  induction e with
  | leaf | enclosed => rfl
  | joined op' first rest _ ih =>
    rw [chain]
    split
    · rw [leaves, leaves, ih, List.append_assoc]
    · rfl

theorem eval_chain (op : Connective) (e f : Expression α) (v : α → Bool) :
    (e.chain op f).eval v = op.apply (e.eval v) (f.eval v) := by
  induction e with
  | leaf | enclosed => rfl
  | joined op' first rest _ ih =>
    rw [chain]
    split
    · next h => rw [h, eval, eval, ih, Connective.apply_assoc]
    · rfl

theorem map_chain (g : α → β) (op : Connective) (e f : Expression α) :
    (e.chain op f).map g = (e.map g).chain op (f.map g) := by
  induction e with
  | leaf | enclosed => rfl
  | joined op' first rest _ ih =>
    rw [chain, map, chain]
    split
    · rw [map, ih]
    · rfl

theorem leaves_enclose (parens : Bool) (e : Expression α) : (e.enclose parens).leaves = e.leaves := by
  cases parens <;> rfl

theorem eval_enclose (parens : Bool) (e : Expression α) (v : α → Bool) :
    (e.enclose parens).eval v = e.eval v := by
  cases parens <;> rfl

theorem leaves_map (g : α → β) (e : Expression α) : (e.map g).leaves = e.leaves.map g := by
  induction e with
  | leaf => rfl
  | enclosed inner ih => exact ih
  | joined op first rest ih ih' => rw [map, leaves, leaves, ih, ih', List.map_append]

theorem eval_map (g : α → β) (e : Expression α) (v : β → Bool) :
    (e.map g).eval v = e.eval fun a => v (g a) := by
  induction e with
  | leaf => rfl
  | enclosed inner ih => exact ih
  | joined op first rest ih ih' => rw [map, eval, eval, ih, ih']

end Expression

/-! ## Shapes -/

namespace Formula

/-- The expression of a formula: its atoms with the parentheses that its text has. -/
inductive IsParsedAs : Formula → Expression Atom → Prop
  | atom (a : Atom) : IsParsedAs (.atom a) (.leaf a)
  | last {op grouped term e} (h : IsParsedAs term e) :
    IsParsedAs (.junction op grouped [term]) (e.enclose (grouped || term.clashes op))
  | more {op grouped term next rest e f} (h : IsParsedAs term e)
    (hrest : IsParsedAs (.junction op grouped (next :: rest)) f) :
    IsParsedAs (.junction op grouped (term :: next :: rest))
      ((e.enclose (grouped || term.clashes op)).chain op f)

theorem IsParsedAs.leaves {f : Formula} {e : Expression Atom} (h : IsParsedAs f e) :
    e.leaves = f.atoms := by
  induction h with
  | atom a => rfl
  | last h ih => rw [Expression.leaves_enclose, ih, atoms, atomsOf, atomsOf, List.append_nil]
  | more h hrest ih ih' =>
    rw [Expression.leaves_chain, Expression.leaves_enclose, ih, ih', atoms, atoms]
    rfl

theorem IsParsedAs.eval {f : Formula} {e : Expression Atom} (h : IsParsedAs f e)
    (v : Atom → Bool) : e.eval v = f.eval v := by
  induction h with
  | atom a => rfl
  | last h ih =>
    rw [Expression.eval_enclose, ih, Formula.eval, evalTerms, evalTerms, Connective.apply_unit]
  | more h hrest ih ih' =>
    rw [Expression.eval_chain, Expression.eval_enclose, ih, ih', Formula.eval, Formula.eval]
    rfl

/-- A formula with terms in every junction has an expression. -/
theorem exists_isParsedAs {f : Formula} (whole : f.isWhole = true) : ∃ e, IsParsedAs f e := by
  induction f using Formula.induction with
  | atom a => exact ⟨_, .atom a⟩
  | junction op grouped terms ih =>
    rw [isWhole, Bool.and_eq_true, areWhole_iff] at whole
    obtain ⟨hne, hterms⟩ := whole
    induction terms with
    | nil => cases hne
    | cons term rest ihrest =>
      obtain ⟨hterm, hrest⟩ := List.forall_mem_cons.1 hterms
      obtain ⟨e, he⟩ := ih term List.mem_cons_self hterm
      cases rest with
      | nil => exact ⟨_, .last he⟩
      | cons next rest =>
        obtain ⟨f, hf⟩ := ihrest (fun t ht => ih t (List.mem_cons_of_mem term ht)) rfl hrest
        exact ⟨_, .more he hf⟩

end Formula

end FilterPlan
