/-
  The grammar of expressions.

  1. **Tests** — a path of names and what is asked of it: a comparison with a numbered argument, a
     comparison with null, the call of a method, or LIKE.
  2. **Expressions** — tests, parentheses, and two expressions joined.  `Derives` is the grammar
     itself: AND binds tighter than OR, and parentheses hold any expression.
  3. **One reading** — no test is the beginning of another one, and an expression ends where a
     connective that it can take is missing.
  4. **The crux (`Derives.determined`)** — two readings that begin at the same lexeme are the same,
     so a text parses in one way at most.
-/
import FilterPlan.Proofs.Formula.Truth
import FilterPlan.Proofs.Expression.Lexeme

namespace FilterPlan

/-! ## Tests -/

/-- What is asked of a field.  An index is the place of an argument, counted from zero. -/
inductive Form
  | compare (op : Comparison) (index : Nat)
  | null (op : Comparison)
  /-- The call of a text method. -/
  | call (test : TextTest) (index : Nat)
  /-- A match against a LIKE pattern. -/
  | like (index : Nat)
deriving DecidableEq

/-- The argument that a form refers to. -/
def Form.index? : Form → Option Nat
  | .compare _ index => some index
  | .null _ => none
  | .call _ index => some index
  | .like index => some index

/-- A field and what is asked of it. -/
structure Test where
  path : List String
  form : Form
deriving DecidableEq

namespace Grammar

/-- The name that a lexeme is. -/
def name? : Dialect → Lexeme → Option String
  | .dynamicLinq, .word w => if w ∈ ["and", "or", "null"] then none else some w
  | .postgres, .name s => some s
  | _, _ => none

/-- The comparison that a sign stands for. -/
def sign? : Dialect → String → Option Comparison
  | .dynamicLinq, "==" => some .eq
  | .dynamicLinq, "!=" => some .ne
  | .postgres, "=" => some .eq
  | .postgres, "<>" => some .ne
  | _, ">" => some .gt
  | _, ">=" => some .ge
  | _, "<" => some .lt
  | _, "<=" => some .le
  | _, _ => none

/-- The place of the argument that a placeholder stands for. -/
def index? : Dialect → Nat → Option Nat
  | .dynamicLinq, n => some n
  | .postgres, 0 => none
  | .postgres, n + 1 => some n

/-- The test that a method makes. -/
def method? : String → Option TextTest
  | "StartsWith" => some .startsWith
  | "EndsWith" => some .endsWith
  | "Contains" => some .contains
  | _ => none

/-- The connective that a word stands for. -/
def connective? : Dialect → String → Option Connective
  | .dynamicLinq, "and" => some .and
  | .dynamicLinq, "or" => some .or
  | .postgres, "AND" => some .and
  | .postgres, "OR" => some .or
  | _, _ => none

/-- Names with dots between them. -/
inductive Path (d : Dialect) : List Lexeme → List String → Prop
  | last {l s} (hname : name? d l = some s) : Path d [l] [s]
  | more {l s ts path} (hname : name? d l = some s) (hrest : Path d ts path) :
    Path d (l :: .dot :: ts) (s :: path)

/-- What can follow a path to make a test of it. -/
inductive Tail : Dialect → List Lexeme → Form → Prop
  | compare {d s op n i} (hsign : sign? d s = some op) (hindex : index? d n = some i) :
    Tail d [.sign s, .placeholder n] (.compare op i)
  | equalsNull {s op} (hsign : sign? .dynamicLinq s = some op) :
    Tail .dynamicLinq [.sign s, .word "null"] (.null op)
  | call {m test n i} (hmethod : method? m = some test)
    (hindex : index? .dynamicLinq n = some i) :
    Tail .dynamicLinq [.dot, .word m, .left, .placeholder n, .right] (.call test i)
  | isNull : Tail .postgres [.word "IS", .word "NULL"] (.null .eq)
  | isNotNull : Tail .postgres [.word "IS", .word "NOT", .word "NULL"] (.null .ne)
  | orderNull {s op} (hsign : sign? .postgres s = some op) (hop : op ≠ .eq ∧ op ≠ .ne) :
    Tail .postgres [.sign s, .word "NULL"] (.null op)
  | like {n i} (hindex : index? .postgres n = some i) :
    Tail .postgres [.word "LIKE", .placeholder n, .word "ESCAPE", .literal "\\"] (.like i)

/-- A path and what follows it. -/
inductive IsTest (d : Dialect) : List Lexeme → Test → Prop
  | intro {ts us path form} (hpath : Path d ts path) (htail : Tail d us form) :
    IsTest d (ts ++ us) ⟨path, form⟩

end Grammar

/-! ## Expressions -/

/-- Tests under the connectives, parentheses kept. -/
inductive Expression (α : Type)
  | leaf (a : α)
  | enclosed (inner : Expression α)
  | joined (op : Connective) (first rest : Expression α)

namespace Expression

variable {α β : Type}

/-- The expression with each leaf replaced. -/
def map (g : α → β) : Expression α → Expression β
  | .leaf a => .leaf (g a)
  | .enclosed inner => .enclosed (inner.map g)
  | .joined op first rest => .joined op (first.map g) (rest.map g)

/-- The leaves from left to right. -/
def leaves : Expression α → List α
  | .leaf a => [a]
  | .enclosed inner => inner.leaves
  | .joined _ first rest => first.leaves ++ rest.leaves

/-- The value of an expression, given the values of its leaves. -/
def eval (v : α → Bool) : Expression α → Bool
  | .leaf a => v a
  | .enclosed inner => inner.eval v
  | .joined op first rest => op.apply (first.eval v) (rest.eval v)

end Expression

namespace Grammar

/-- The connectives, the one that binds loosest first. -/
def loosestFirst : List Connective := [.or, .and]

/-- The grammar: the lexemes are an expression in which only these connectives, loosest first,
    stand outside parentheses. -/
inductive Derives {α : Type} (d : Dialect) (Leaf : List Lexeme → α → Prop) :
    List Connective → List Lexeme → Expression α → Prop
  | leaf {ts a} (hleaf : Leaf ts a) : Derives d Leaf [] ts (.leaf a)
  | enclosed {ts e} (hinner : Derives d Leaf loosestFirst ts e) :
    Derives d Leaf [] (.left :: (ts ++ [.right])) (.enclosed e)
  | single {op ops ts e} (honly : Derives d Leaf ops ts e) : Derives d Leaf (op :: ops) ts e
  | joined {op ops ts us w e f} (hfirst : Derives d Leaf ops ts e)
    (hword : connective? d w = some op) (hrest : Derives d Leaf (op :: ops) us f) :
    Derives d Leaf (op :: ops) (ts ++ .word w :: us) (.joined op e f)

/-- **Parsing.**  The text's lexemes are derived as this expression. -/
def Parses (d : Dialect) (text : String) (e : Expression Test) : Prop :=
  ∃ ts, Lexeme.lexemes? d text = some ts ∧ Derives d (IsTest d) loosestFirst ts e

/-! ## One reading of a test -/

section

variable {d : Dialect}

/-- The name that a path begins with is not called: behind it stands no parenthesis. -/
theorem path_not_called {ts us r rest : List Lexeme} {l : Lexeme} {path : List String}
    {form : Form} (hpath : Path d ts path) (htail : Tail d us form) :
    ts ++ us ++ r ≠ l :: .left :: rest := by
  intro heq
  cases hpath with
  | last hname => cases htail <;> simp at heq
  | more hname hrest => simp at heq

/-- A tail that begins with a dot calls the name behind it, so no path goes on there. -/
theorem tail_not_path {us r ts us' r' : List Lexeme} {path : List String} {form form' : Form}
    (htail : Tail d us form) (hpath : Path d ts path) (htail' : Tail d us' form') :
    us ++ r ≠ .dot :: (ts ++ us' ++ r') := by
  intro heq
  cases htail with
  | call hmethod hindex =>
    rw [List.cons_append, List.cons_append, List.cons.injEq] at heq
    exact path_not_called hpath htail' heq.2.symm
  | _ => simp at heq

/-- Where two paths and their tails begin together, the paths end together. -/
theorem path_determined {ts us r ts' us' r' : List Lexeme} {path path' : List String}
    {form form' : Form} (hpath : Path d ts path) (htail : Tail d us form)
    (hpath' : Path d ts' path') (htail' : Tail d us' form')
    (heq : ts ++ us ++ r = ts' ++ us' ++ r') : ts = ts' ∧ path = path' ∧ us ++ r = us' ++ r' := by
  induction hpath generalizing ts' path' with
  | last hname =>
    cases hpath' with
    | last hname' =>
      simp only [List.cons_append, List.nil_append, List.cons.injEq] at heq
      obtain ⟨rfl, hrest⟩ := heq
      rw [hname] at hname'
      exact ⟨rfl, by rw [Option.some.inj hname'], hrest⟩
    | more hname' hrest' =>
      -- the first path ends where the second one goes on behind a dot
      simp only [List.cons_append, List.nil_append, List.cons.injEq] at heq
      exact absurd heq.2 (tail_not_path htail hrest' htail')
  | more hname hrest ih =>
    cases hpath' with
    | last hname' =>
      simp only [List.cons_append, List.nil_append, List.cons.injEq] at heq
      exact absurd heq.2.symm (tail_not_path htail' hrest htail)
    | more hname' hrest' =>
      simp only [List.cons_append, List.cons.injEq, true_and] at heq
      obtain ⟨rfl, heq⟩ := heq
      obtain ⟨rfl, rfl, hends⟩ := ih hrest' heq
      rw [hname] at hname'
      exact ⟨rfl, by rw [Option.some.inj hname'], hends⟩

/-- No tail is the beginning of another one. -/
theorem tail_determined {us r us' r' : List Lexeme} {form form' : Form} (htail : Tail d us form)
    (htail' : Tail d us' form') (heq : us ++ r = us' ++ r') : us = us' ∧ form = form' := by
  -- two kinds of tails differ in one of their first two lexemes
  cases htail <;> cases htail' <;> simp_all

/-- **Tests end by themselves.**  Two tests that begin at the same lexeme are the same. -/
theorem isTest_determined {ts r ts' r' : List Lexeme} {t t' : Test} (h : IsTest d ts t)
    (h' : IsTest d ts' t') (heq : ts ++ r = ts' ++ r') : ts = ts' ∧ t = t' := by
  obtain ⟨hpath, htail⟩ := h
  obtain ⟨hpath', htail'⟩ := h'
  obtain ⟨rfl, rfl, hends⟩ := path_determined hpath htail hpath' htail' heq
  obtain ⟨rfl, rfl⟩ := tail_determined htail htail' hends
  exact ⟨rfl, rfl⟩

/-- No test begins with a parenthesis. -/
theorem isTest_ne_left {ts r rest : List Lexeme} {t : Test} (h : IsTest d ts t) :
    ts ++ r ≠ .left :: rest := by
  intro heq
  obtain ⟨hpath, -⟩ := h
  cases hpath with
  | last hname =>
    rw [List.head_eq_of_cons_eq heq] at hname
    cases d <;> simp [name?] at hname
  | more hname hrest =>
    rw [List.head_eq_of_cons_eq heq] at hname
    cases d <;> simp [name?] at hname

/-! ## One reading of an expression -/

/-- What follows is not taken into an expression with these connectives. -/
def Stops (d : Dialect) (ops : List Connective) (rest : List Lexeme) : Prop :=
  ∀ w op, rest.head? = some (.word w) → connective? d w = some op → op ∉ ops

theorem Stops.tail {op : Connective} {ops : List Connective} {rest : List Lexeme}
    (h : Stops d (op :: ops) rest) : Stops d ops rest :=
  fun w op' hhead hword hmem => h w op' hhead hword (List.mem_cons_of_mem op hmem)

theorem stops_nil (ops : List Connective) : Stops d ops [] := by
  intro w op hhead
  cases hhead

theorem stops_right (ops : List Connective) (rest : List Lexeme) :
    Stops d ops (.right :: rest) := by
  intro w op hhead
  cases hhead

/-- A connective ends the expressions that cannot take it. -/
theorem stops_word {op : Connective} {ops : List Connective} {w : String} (hops : op ∉ ops)
    (hword : connective? d w = some op) (rest : List Lexeme) :
    Stops d ops (.word w :: rest) := by
  intro w' op' hhead hword'
  obtain rfl := Lexeme.word.inj (Option.some.inj hhead)
  rw [hword] at hword'
  rw [← Option.some.inj hword']
  exact hops

/-- **Readings that begin together are the same.**  Neither can end before the other: what follows
    an expression is nothing that it could have taken. -/
theorem Derives.determined {ops : List Connective} {ts r ts' r' : List Lexeme}
    {e e' : Expression Test} (h : Derives d (IsTest d) ops ts e)
    (h' : Derives d (IsTest d) ops ts' e') (hops : ops.Nodup) (hstop : Stops d ops r)
    (hstop' : Stops d ops r') (heq : ts ++ r = ts' ++ r') : ts = ts' ∧ e = e' := by
  induction h generalizing ts' r r' e' with
  | leaf hleaf =>
    cases h' with
    | leaf hleaf' =>
      obtain ⟨rfl, rfl⟩ := isTest_determined hleaf hleaf' heq
      exact ⟨rfl, rfl⟩
    | enclosed hinner' => exact absurd heq (isTest_ne_left hleaf)
  | enclosed hinner ih =>
    cases h' with
    | leaf hleaf' => exact absurd heq.symm (isTest_ne_left hleaf')
    | enclosed hinner' =>
      simp only [List.cons_append, List.append_assoc, List.cons.injEq, true_and] at heq
      obtain ⟨rfl, rfl⟩ := ih hinner' (by decide) (stops_right _ _) (stops_right _ _) heq
      exact ⟨rfl, rfl⟩
  | single honly ih =>
    obtain ⟨hop, hops⟩ := List.nodup_cons.1 hops
    cases h' with
    | single honly' => exact ih honly' hops hstop.tail hstop'.tail heq
    | joined hfirst' hword' hrest' =>
      -- the connective that the second reading takes stands where the first one stops
      rw [List.append_assoc] at heq
      obtain ⟨rfl, -⟩ := ih hfirst' hops hstop.tail (stops_word hop hword' _) heq
      rw [List.append_cancel_left heq] at hstop
      exact absurd List.mem_cons_self (hstop _ _ rfl hword')
  | joined hfirst hword hrest ihfirst ihrest =>
    obtain ⟨hop, hops'⟩ := List.nodup_cons.1 hops
    cases h' with
    | single honly' =>
      -- as above, with the sides exchanged
      rw [List.append_assoc] at heq
      obtain ⟨rfl, -⟩ := ihfirst honly' hops' (stops_word hop hword _) hstop'.tail heq
      rw [← List.append_cancel_left heq] at hstop'
      exact absurd List.mem_cons_self (hstop' _ _ rfl hword)
    | joined hfirst' hword' hrest' =>
      rw [List.append_assoc, List.append_assoc] at heq
      obtain ⟨rfl, rfl⟩ :=
        ihfirst hfirst' hops' (stops_word hop hword _) (stops_word hop hword' _) heq
      have hends := List.append_cancel_left heq
      rw [List.cons_append, List.cons_append, List.cons.injEq] at hends
      obtain ⟨rfl, rfl⟩ := ihrest hrest' hops hstop hstop' hends.2
      obtain rfl := Lexeme.word.inj hends.1
      exact ⟨rfl, rfl⟩

/-- **One parse at most.**  A text is an expression in one way or in none. -/
theorem Parses.unique {text : String} {e e' : Expression Test} (h : Parses d text e)
    (h' : Parses d text e') : e = e' := by
  obtain ⟨ts, hlex, hderives⟩ := h
  obtain ⟨ts', hlex', hderives'⟩ := h'
  rw [hlex] at hlex'
  have heq : ts ++ [] = ts' ++ [] := by rw [Option.some.inj hlex']
  exact (hderives.determined hderives' (by decide) (stops_nil _) (stops_nil _) heq).2

end

end Grammar

end FilterPlan
