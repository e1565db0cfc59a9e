/-
  Results made in turn, of which some may fail.

  1. **Without a failure** — the results are those of the items one by one.
  2. **With a failure** — it is that of the first item that fails, whatever comes after it.
     `FirstFailure` says this for any relation between items and failures; for a traversal the
     relation is what it calls on each item (`mapM_eq_error_iff_firstFailure`).
-/
import Mathlib.Data.List.Forall2

namespace FilterPlan

/-- What a mapped result is the image of. -/
theorem exists_of_map_eq_ok {ε α β : Type} {x : Except ε α} {g : α → β} {b : β}
    (h : x.map g = .ok b) : ∃ a, x = .ok a ∧ g a = b := by
  cases x with
  | error e => cases h
  | ok a => exact ⟨a, rfl, Except.ok.inj h⟩

/-- What a result that goes on came from. -/
theorem exists_of_bind_eq_ok {ε α β : Type} {x : Except ε α} {f : α → Except ε β} {b : β}
    (h : x >>= f = .ok b) : ∃ a, x = .ok a ∧ f a = .ok b := by
  cases x with
  | error e => cases h
  | ok a => exact ⟨a, rfl, h⟩

theorem mapError_eq_ok_iff {ε ε' α : Type} {x : Except ε α} {f : ε → ε'} {a : α} :
    x.mapError f = .ok a ↔ x = .ok a := by
  cases x with
  | error e => exact ⟨nofun, nofun⟩
  | ok a' =>
    show Except.ok a' = .ok a ↔ _
    rw [Except.ok.injEq, Except.ok.injEq]

theorem map_eq_error_iff {ε α β : Type} {x : Except ε α} {g : α → β} {e : ε} :
    x.map g = .error e ↔ x = .error e := by
  cases x with
  | error e' =>
    constructor
    · intro h
      rw [Except.error.inj h]
    · intro h
      rw [h]
      rfl
  | ok a => exact ⟨nofun, nofun⟩

section

variable {ε ι α : Type} {k : ι → Except ε α} {xs : List ι}

/-! ## Without a failure -/

/-- Results made in turn without a failure are the results one by one. -/
theorem forall₂_of_mapM_eq_ok {ys : List α} (h : xs.mapM k = .ok ys) :
    List.Forall₂ (fun x y => k x = .ok y) xs ys := by
  induction xs generalizing ys with
  | nil =>
    rw [List.mapM_nil] at h
    rw [← Except.ok.inj h]
    exact .nil
  | cons x xs ih =>
    rw [List.mapM_cons] at h
    obtain ⟨y, hx, h⟩ := exists_of_bind_eq_ok h
    obtain ⟨rest, hxs, h⟩ := exists_of_bind_eq_ok h
    have hys : y :: rest = ys := Except.ok.inj h
    rw [← hys]
    exact .cons hx (ih hxs)

theorem mapM_eq_ok_iff {ys : List α} :
    xs.mapM k = .ok ys ↔ List.Forall₂ (fun x y => k x = .ok y) xs ys := by
  refine ⟨forall₂_of_mapM_eq_ok, fun h => ?_⟩
  induction h with
  | nil => rfl
  | cons hx _ ih =>
    rw [List.mapM_cons, hx, ih]
    rfl

/-- Each of the results made in turn is one item's. -/
theorem exists_of_mem_mapM {ys : List α} (h : xs.mapM k = .ok ys) {y : α} (hy : y ∈ ys) :
    ∃ x ∈ xs, k x = .ok y := by
  have hall := forall₂_of_mapM_eq_ok h
  clear h
  induction hall with
  | nil => cases hy
  | @cons x y' xs ys hx hrest ih =>
    rcases List.mem_cons.1 hy with rfl | hy
    · exact ⟨x, List.mem_cons_self, hx⟩
    · obtain ⟨z, hz, hmade⟩ := ih hy
      exact ⟨z, List.mem_cons_of_mem x hz, hmade⟩

/-- Results made in turn, none of which fails. -/
theorem mapM_eq_ok_map {g : ι → α} (h : ∀ x ∈ xs, k x = .ok (g x)) :
    xs.mapM k = .ok (xs.map g) := by
  induction xs with
  | nil => rfl
  | cons x xs ih =>
    obtain ⟨hx, hxs⟩ := List.forall_mem_cons.1 h
    rw [List.mapM_cons, hx, ih hxs]
    rfl

/-- Every item can be paired just when the list can. -/
theorem exists_forall₂_iff {R : ι → α → Prop} :
    (∃ ys, List.Forall₂ R xs ys) ↔ ∀ x ∈ xs, ∃ y, R x y := by
  induction xs with
  | nil => exact ⟨fun _ => List.forall_mem_nil _, fun _ => ⟨[], .nil⟩⟩
  | cons x xs ih =>
    rw [List.forall_mem_cons, ← ih]
    constructor
    · rintro ⟨_, h⟩
      obtain ⟨y, ys, hx, hxs, -⟩ := List.forall₂_cons_left_iff.1 h
      exact ⟨⟨y, hx⟩, ys, hxs⟩
    · rintro ⟨⟨y, hx⟩, ys, hxs⟩
      exact ⟨y :: ys, .cons hx hxs⟩

/-! ## With a failure -/

/-- The first of the items that fails does so like this. -/
def FirstFailure (Fails : ι → ε → Prop) (xs : List ι) (e : ε) : Prop :=
  ∃ before x after, xs = before ++ x :: after ∧ (∀ b ∈ before, ∀ e', ¬ Fails b e') ∧ Fails x e

variable {Fails : ι → ε → Prop} {e : ε}

theorem not_firstFailure_nil : ¬ FirstFailure Fails [] e := by
  rintro ⟨before, x, after, h, -⟩
  exact absurd h.symm (List.append_ne_nil_of_right_ne_nil before (List.cons_ne_nil x after))

/-- It is the head, or the head does not fail and it is the first of the rest. -/
theorem firstFailure_cons {x : ι} : FirstFailure Fails (x :: xs) e ↔
    Fails x e ∨ (∀ e', ¬ Fails x e') ∧ FirstFailure Fails xs e := by
  constructor
  · rintro ⟨before, y, after, hsplit, hbefore, hy⟩
    cases before with
    | nil =>
      obtain ⟨rfl, -⟩ := List.cons.inj hsplit
      exact .inl hy
    | cons b before =>
      obtain ⟨rfl, rfl⟩ := List.cons.inj hsplit
      obtain ⟨hx, hbefore⟩ := List.forall_mem_cons.1 hbefore
      exact .inr ⟨hx, before, y, after, rfl, hbefore, hy⟩
  · rintro (hx | ⟨hx, before, y, after, rfl, hbefore, hy⟩)
    · exact ⟨[], x, xs, rfl, List.forall_mem_nil _, hx⟩
    · exact ⟨x :: before, y, after, rfl, List.forall_mem_cons.2 ⟨hx, hbefore⟩, hy⟩

/-- It is among those in front, or none of them fails and it is behind. -/
theorem firstFailure_append {ys : List ι} : FirstFailure Fails (xs ++ ys) e ↔
    FirstFailure Fails xs e ∨ (∀ x ∈ xs, ∀ e', ¬ Fails x e') ∧ FirstFailure Fails ys e := by
  induction xs with
  | nil =>
    constructor
    · exact fun h => .inr ⟨List.forall_mem_nil _, h⟩
    · rintro (h | ⟨-, h⟩)
      · exact absurd h not_firstFailure_nil
      · exact h
  | cons x xs ih =>
    rw [List.cons_append, firstFailure_cons, firstFailure_cons, ih, List.forall_mem_cons]
    constructor
    · rintro (hx | ⟨hx, h | ⟨hxs, h⟩⟩)
      · exact .inl (.inl hx)
      · exact .inl (.inr ⟨hx, h⟩)
      · exact .inr ⟨⟨hx, hxs⟩, h⟩
    · rintro ((hx | ⟨hx, h⟩) | ⟨⟨hx, hxs⟩, h⟩)
      · exact .inl hx
      · exact .inr ⟨hx, .inl h⟩
      · exact .inr ⟨hx, .inr ⟨hxs, h⟩⟩

/-- Where no item fails in two ways, there are no two first failures. -/
theorem FirstFailure.unique {e' : ε} (hunique : ∀ x e e', Fails x e → Fails x e' → e = e')
    (h : FirstFailure Fails xs e) (h' : FirstFailure Fails xs e') : e = e' := by
  induction xs with
  | nil => exact absurd h not_firstFailure_nil
  | cons x xs ih =>
    rw [firstFailure_cons] at h h'
    rcases h with hx | ⟨hx, h⟩
    · rcases h' with hx' | ⟨hx', -⟩
      · exact hunique x e e' hx hx'
      · exact absurd hx (hx' e)
    · rcases h' with hx' | ⟨-, h'⟩
      · exact absurd hx' (hx e')
      · exact ih h h'

/-- There is a first failure as soon as there is one. -/
theorem exists_firstFailure_iff :
    (∃ e, FirstFailure Fails xs e) ↔ ∃ x ∈ xs, ∃ e, Fails x e := by
  induction xs with
  | nil =>
    constructor
    · rintro ⟨e, h⟩
      exact absurd h not_firstFailure_nil
    · rintro ⟨x, hx, -⟩
      cases hx
  | cons x xs ih =>
    simp only [firstFailure_cons, List.exists_mem_cons_iff, ← ih]
    by_cases hx : ∃ e, Fails x e
    · obtain ⟨e, he⟩ := hx
      exact ⟨fun _ => .inl ⟨e, he⟩, fun _ => ⟨e, .inl he⟩⟩
    · have hholds : ∀ e', ¬ Fails x e' := fun e' he => hx ⟨e', he⟩
      constructor
      · rintro ⟨e, he | ⟨-, he⟩⟩
        · exact absurd he (hholds e)
        · exact .inr ⟨e, he⟩
      · rintro (h | ⟨e, he⟩)
        · exact absurd h hx
        · exact ⟨e, .inr ⟨hholds, he⟩⟩

/-- **The first failure counts.**  The results before it do not matter, and nothing behind it is
    looked at. -/
theorem mapM_eq_error_iff_firstFailure (hfails : ∀ x e, k x = .error e ↔ Fails x e) :
    xs.mapM k = .error e ↔ FirstFailure Fails xs e := by
  induction xs with
  | nil => exact ⟨nofun, fun h => absurd h not_firstFailure_nil⟩
  | cons x xs ih =>
    rw [List.mapM_cons, firstFailure_cons, ← ih, ← hfails]
    cases hx : k x with
    | error e' =>
      have hfailed : Fails x e' := (hfails x e').1 hx
      show Except.error e' = .error e ↔ _
      constructor
      · intro h
        exact .inl (by rw [Except.error.inj h])
      · rintro (h | ⟨hholds, -⟩)
        · rw [Except.error.inj h]
        · exact absurd hfailed (hholds e')
    | ok y =>
      have hholds : ∀ e', ¬ Fails x e' := by
        intro e' he
        rw [(hfails x e').2 he] at hx
        cases hx
      constructor
      · intro h
        refine .inr ⟨hholds, ?_⟩
        cases hxs : xs.mapM k with
        | error e' =>
          rw [hxs] at h
          exact h
        | ok ys =>
          rw [hxs] at h
          cases h
      · rintro (h | ⟨-, h⟩)
        · cases h
        · rw [h]
          rfl

/-- The same, with what was made of the items in front. -/
theorem mapM_eq_error_iff : xs.mapM k = .error e ↔ ∃ before x after, xs = before ++ x :: after
    ∧ (∀ b ∈ before, ∃ y, k b = .ok y) ∧ k x = .error e := by
  have hmade : ∀ b, (∀ e', ¬ k b = .error e') ↔ ∃ y, k b = .ok y := by
    intro b
    cases k b with
    | error e' => exact ⟨fun h => absurd rfl (h e'), nofun⟩
    | ok y => exact ⟨fun _ => ⟨y, rfl⟩, fun _ _ => nofun⟩
  rw [mapM_eq_error_iff_firstFailure fun _ _ => Iff.rfl]
  simp only [FirstFailure, hmade]

end

end FilterPlan
