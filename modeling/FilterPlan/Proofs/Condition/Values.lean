/-
  Values of conditions stay out of the text.

  1. **Agreement** — two computations agree when both fail, or both end with results of the same
     outline.  Agreement goes through `map` and through `mapM`.
  2. **Alike conditions** — the same but for their values, of which only two things are alike:
     whether they are blank and, where the operator packs values, how many they pack.
  3. **The crux (`compile_agree`)** — lists of alike conditions compile to the same text with as
     many arguments, or both fail.  So no character of a value can be seen in the text.
-/
import FilterPlan.Proofs.Condition.Terms
import FilterPlan.Proofs.Formula.Outline

namespace FilterPlan

/-! ## Agreement -/

/-- Both fail, or both end with results that look the same. -/
inductive Agree {ε α β : Type} (look : α → β) : Except ε α → Except ε α → Prop
  | ok {a a' : α} (h : look a = look a') : Agree look (.ok a) (.ok a')
  | error (e e' : ε) : Agree look (.error e) (.error e')

namespace Agree

variable {ε α β γ δ ι : Type} {look : α → β} {look' : γ → δ}

theorem map {x x' : Except ε α} {g g' : α → γ} (h : Agree look x x')
    (hg : ∀ a a', look a = look a' → look' (g a) = look' (g' a')) :
    Agree look' (x.map g) (x'.map g') := by
  cases h with
  | ok h => exact .ok (hg _ _ h)
  | error e e' => exact .error e e'

/-- Computations made in turn agree when they do so one by one. -/
theorem mapM {xs ys : List ι} {k k' : ι → Except ε α}
    (h : List.Forall₂ (fun x y => Agree look (k x) (k' y)) xs ys) :
    Agree (List.map look) (xs.mapM k) (ys.mapM k') := by
  induction h with
  | nil => exact .ok rfl
  | @cons x y xs ys h hrest ih =>
    rw [List.mapM_cons, List.mapM_cons]
    generalize k x = first at h
    generalize k' y = first' at h
    generalize xs.mapM k = rest at ih
    generalize ys.mapM k' = rest' at ih
    cases h with
    | error e e' => exact .error e e'
    | ok h =>
      cases ih with
      | error e e' => exact .error e e'
      | ok hrest => exact .ok (by rw [List.map_cons, List.map_cons, h, hrest])

end Agree

/-! ## Alike conditions -/

/-- Holds of the operators whose value packs several. -/
def Operator.packs : Operator → Bool
  | .oneOf | .noneOf | .between | .betweenEqualStart | .betweenEqualEnd
  | .betweenEqualStartAndEnd => true
  | _ => false

/-- The conditions differ in their values only, and these are alike. -/
structure Condition.Alike (s : Separators) (c c' : Condition) : Prop where
  field : c.field = c'.field
  operator : c.operator = c'.operator
  skipIfBlank : c.skipIfBlank = c'.skipIfBlank
  blank : c.valueIsBlank = c'.valueIsBlank
  count : c.operator.packs = true → (s.valuesIn c.value).length = (s.valuesIn c'.value).length

section

variable {s : Separators} {field value value' : String}

/-- A membership test has one atom for each value, all of one outline. -/
theorem membership?_outline (op : Comparison) (join : Connective) :
    (membership? s op join field value).map Formula.outline
      = Formula.bare? join
        (List.replicate (s.valuesIn value).length (.atom (.compare field op ""))) := by
  have hatom : Formula.outline ∘ (fun v => Formula.atom (.compare field op v))
      = fun _ => Formula.atom (.compare field op "") := by
    funext v
    rw [Function.comp_apply, Formula.outline]
    rfl
  rw [membership?, Formula.bare?_outline, List.map_map, hatom, List.map_const']

/-- Ranges between as many bounds are both malformed, or compare the field in the same way. -/
theorem rangeTest_agree (lower upper : Comparison)
    (hcount : (s.valuesIn value).length = (s.valuesIn value').length) :
    Agree (Option.map Formula.outline) (rangeTest s lower upper field value)
      (rangeTest s lower upper field value') := by
  rw [rangeTest, rangeTest]
  generalize s.valuesIn value = bounds at hcount
  generalize s.valuesIn value' = bounds' at hcount
  match bounds, bounds', hcount with
  | [], [], _ => exact .error _ _
  | [_], [_], _ => exact .error _ _
  | [start, stop], [start', stop'], _ =>
    refine .ok ?_
    rw [Formula.bare?_outline, Formula.bare?_outline]
    simp only [List.map_cons, List.map_nil, Formula.outline, Atom.outline]
  | _ :: _ :: _ :: _, _ :: _ :: _ :: _, _ => exact .error _ _

end

namespace Condition

variable {s : Separators} {c c' : Condition}

/-- **One field.**  What alike conditions say about a field differs in values only. -/
theorem Alike.testOf?_agree (h : Alike s c c') (field : String) :
    Agree (Option.map Formula.outline) (c.testOf? s field) (c'.testOf? s field) := by
  rw [testOf?, testOf?, ← h.blank, ← h.skipIfBlank, ← h.operator]
  cases c.valueIsBlank with
  | true =>
    -- a blank value is never looked at again: no test, or a test for null
    cases c.skipIfBlank with
    | true => exact .ok rfl
    | false => exact .ok rfl
  | false =>
    have hcount := h.count
    show Agree _ (c.operator.shape.test? s field c.value) (c.operator.shape.test? s field c'.value)
    cases hop : c.operator with
    | equal | notEqual | greater | greaterEqual | less | lessEqual | startsWith | endsWith
    | contains =>
      refine .ok ?_
      rw [Option.map_some, Option.map_some, Formula.outline, Formula.outline]
      rfl
    | oneOf | noneOf =>
      rw [hop] at hcount
      refine .ok ?_
      rw [membership?_outline, membership?_outline, hcount rfl]
    | between | betweenEqualStart | betweenEqualEnd | betweenEqualStartAndEnd =>
      rw [hop] at hcount
      exact rangeTest_agree _ _ (hcount rfl)

/-- Terms that differ in values only are grouped to a formula that does. -/
theorem grouped?_agree {ι : Type} {op : Connective} {xs ys : List ι}
    {k k' : ι → Except MalformedRange (Option Formula)}
    (h : List.Forall₂ (fun x y => Agree (Option.map Formula.outline) (k x) (k' y)) xs ys) :
    Agree (Option.map Formula.outline)
      ((xs.mapM k).map fun tests => Formula.grouped? op (tests.filterMap id))
      ((ys.mapM k').map fun tests => Formula.grouped? op (tests.filterMap id)) := by
  refine (Agree.mapM h).map fun tests tests' htests => ?_
  have hterms : ∀ tests : List (Option Formula), (tests.filterMap id).map Formula.outline
      = (tests.map (Option.map Formula.outline)).filterMap id := by
    intro tests
    rw [List.map_filterMap, List.filterMap_map]
    rfl
  rw [Formula.grouped?_outline, Formula.grouped?_outline, hterms, hterms, htests]

/-- **One condition.**  What alike conditions say differs in values only. -/
theorem Alike.formula?_agree (h : Alike s c c') :
    Agree (Option.map Formula.outline) (c.formula? s) (c'.formula? s) := by
  have htargets : c'.targets s = c.targets s := by rw [targets, targets, h.field]
  rw [formula?, formula?, htargets]
  by_cases hlisted : (c.targets s).listed = true
  · simp only [if_pos hlisted]
    exact grouped?_agree (List.forall₂_same.2 fun field _ => h.testOf?_agree field)
  · simp only [if_neg hlisted]
    cases (c.targets s).fields with
    | nil => exact .ok rfl
    | cons field rest => exact h.testOf?_agree field

end Condition

/-! ## Lists of conditions -/

/-- The formulas of alike conditions differ in values only. -/
theorem Separators.formula?_agree {s : Separators} {xs ys : List Condition}
    (h : List.Forall₂ (Condition.Alike s) xs ys) :
    Agree (Option.map Formula.outline) (s.formula? xs).outcome (s.formula? ys).outcome := by
  have hfilter : List.Forall₂ (Condition.Alike s) (xs.filter fun c => !c.fieldIsBlank)
      (ys.filter fun c => !c.fieldIsBlank) := by
    refine List.rel_filter ?_ h
    intro c c' halike
    simp only [Condition.fieldIsBlank, halike.field]
  rw [outcome_formula?, outcome_formula?]
  exact Condition.grouped?_agree (hfilter.imp fun c c' halike => halike.formula?_agree)

/-- **Values stay out of the text.**  Two lists of conditions that are alike one by one both fail to
    compile, or they compile to the same expression with the same number of arguments. -/
theorem Settings.compile_agree {s : Settings} {xs ys : List Condition}
    (h : List.Forall₂ (Condition.Alike s.separators) xs ys) :
    Agree (fun p : Predicate => (p.expression, p.arguments.length))
      (s.compile xs).outcome (s.compile ys).outcome := by
  rw [outcome_compile, outcome_compile]
  refine (Separators.formula?_agree h).map fun f f' houtline => ?_
  cases f with
  | none =>
    cases f' with
    | none => rfl
    | some f' => cases houtline
  | some f =>
    cases f' with
    | none => cases houtline
    | some f' =>
      obtain ⟨htext, hlength⟩ := Formula.predicate_of_outline s.dialect (Option.some.inj houtline)
      exact Prod.ext htext hlength

/-- Values that look like syntax are bound as any other. -/
theorem Settings.compile_agree_hostile :
    let xs : List Condition := [⟨"Name", "x", .contains, true⟩, ⟨"Id", "1|2", .oneOf, true⟩]
    let ys : List Condition :=
      [⟨"Name", "' OR 1=1 --", .contains, true⟩, ⟨"Id", "|$9|\"", .oneOf, true⟩]
    List.Forall₂ (Condition.Alike { }) xs ys ∧
      Agree (fun p : Predicate => (p.expression, p.arguments.length))
        (({ dialect := .postgres } : Settings).compile xs).outcome
        (({ dialect := .postgres } : Settings).compile ys).outcome := by
  intro xs ys
  have hname : Condition.Alike { } ⟨"Name", "x", .contains, true⟩
      ⟨"Name", "' OR 1=1 --", .contains, true⟩ := ⟨rfl, rfl, rfl, rfl, fun _ => rfl⟩
  have hid : Condition.Alike { } ⟨"Id", "1|2", .oneOf, true⟩ ⟨"Id", "|$9|\"", .oneOf, true⟩ :=
    ⟨rfl, rfl, rfl, rfl, fun _ => rfl⟩
  have halike : List.Forall₂ (Condition.Alike { }) xs ys := .cons hname (.cons hid .nil)
  exact ⟨halike, Settings.compile_agree halike⟩

end FilterPlan
