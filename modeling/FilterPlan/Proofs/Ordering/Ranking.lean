/-
  The rank of sort rules.

  1. **Rankings** — `IsRanking` says what it means to order rules by priority: the active ones are
     all there, lower priority numbers come first, and those of one number stay as they came.
  2. **One ranking** — two lists in ascending order that hold the same rules of each priority, in
     the same order, are the same (`eq_of_filter_eq`).  So there is one ranking at most, and the
     library finds it.
  3. **The crux (`isRanking_iff`, `keys_congr`)** — so the keys depend on nothing but the active
     rules of each priority, in the order in which they came.
-/
import Mathlib.Data.List.Forall2
import FilterPlan.Ordering

namespace FilterPlan

namespace SortRule

/-! ## Rankings -/

/-- The rules that take part, the most significant first, and those of one priority in the order in
    which they were given. -/
structure IsRanking (rules ranked : List SortRule) : Prop where
  perm : ranked.Perm (rules.filter fun r => r.direction ≠ .unsorted)
  ascending : ranked.Pairwise fun r s => r.order ≤ s.order
  stable : ∀ n, ranked.filter (fun r => r.order = n)
    = rules.filter fun r => r.direction ≠ .unsorted ∧ r.order = n

/-- The rule asks for this key. -/
structure AsksFor (r : SortRule) (k : OrderingKey) : Prop where
  field : k.field = r.field
  sense : r.direction.sense? = some k.sense

/-! ## One ranking -/

section

variable {r x y : SortRule} {xs ys : List SortRule}

/-- Lists that hold the same rules of each priority hold the same rules. -/
theorem mem_of_filter_eq
    (h : ∀ n, xs.filter (fun r => r.order = n) = ys.filter fun r => r.order = n) (hr : r ∈ xs) :
    r ∈ ys := by
  have hmem : r ∈ xs.filter fun s => s.order = r.order := List.mem_filter.2 ⟨hr, by simp⟩
  rw [h] at hmem
  exact (List.mem_filter.1 hmem).1

/-- The first rule of an ascending list comes before none of them. -/
theorem order_head_le (hxs : (x :: xs).Pairwise fun r s => r.order ≤ s.order)
    (hr : r ∈ x :: xs) : x.order ≤ r.order := by
  rcases List.mem_cons.1 hr with rfl | hr
  · exact Int32.le_refl _
  · exact (List.pairwise_cons.1 hxs).1 r hr

/-- Without a first rule that they share, lists hold the same rules of each priority if they did
    before. -/
theorem filter_tail_eq (h : ∀ n, (x :: xs).filter (fun r => r.order = n)
      = (x :: ys).filter fun r => r.order = n) (n : Int32) :
    xs.filter (fun r => r.order = n) = ys.filter fun r => r.order = n := by
  have hn := h n
  by_cases hx : x.order = n
  · rw [List.filter_cons_of_pos (by simpa using hx),
      List.filter_cons_of_pos (by simpa using hx)] at hn
    exact (List.cons.inj hn).2
  · rw [List.filter_cons_of_neg (by simpa using hx),
      List.filter_cons_of_neg (by simpa using hx)] at hn
    exact hn

/-- **One ranking.**  Ascending lists that hold the same rules of each priority, in the same order,
    are the same. -/
theorem eq_of_filter_eq (hxs : xs.Pairwise fun r s => r.order ≤ s.order)
    (hys : ys.Pairwise fun r s => r.order ≤ s.order)
    (h : ∀ n, xs.filter (fun r => r.order = n) = ys.filter fun r => r.order = n) : xs = ys := by
  induction xs generalizing ys with
  | nil =>
    have hnone : ∀ y ∈ ys, False := fun y hy => nomatch mem_of_filter_eq (fun n => (h n).symm) hy
    exact (List.eq_nil_iff_forall_not_mem.2 hnone).symm
  | cons x xs ih =>
    cases ys with
    | nil => exact nomatch mem_of_filter_eq h (List.mem_cons_self (l := xs))
    | cons y ys =>
      -- each first rule is in the other list too, so they are of one priority, and of that
      -- priority both are the first
      have hle : x.order ≤ y.order :=
        order_head_le hxs (mem_of_filter_eq (fun n => (h n).symm) List.mem_cons_self)
      have hge : y.order ≤ x.order := order_head_le hys (mem_of_filter_eq h List.mem_cons_self)
      have horder : y.order = x.order := Int32.le_antisymm hge hle
      have hfirst := h x.order
      rw [List.filter_cons_of_pos (by simp), List.filter_cons_of_pos (by simp [horder])] at hfirst
      obtain ⟨rfl, -⟩ := List.cons.inj hfirst
      have hrest : xs = ys :=
        ih (List.pairwise_cons.1 hxs).2 (List.pairwise_cons.1 hys).2 (filter_tail_eq h)
      rw [hrest]

end

/-! ## The ranking of the library -/

theorem inOrder_iff {r s : SortRule} : inOrder r s = true ↔ r.order ≤ s.order := by
  rw [inOrder, decide_eq_true_eq]

theorem inOrder_trans (r s t : SortRule) (hrs : inOrder r s = true) (hst : inOrder s t = true) :
    inOrder r t = true := by
  rw [inOrder_iff] at hrs hst ⊢
  exact Int32.le_trans hrs hst

theorem inOrder_total (r s : SortRule) : (inOrder r s || inOrder s r) = true := by
  rw [Bool.or_eq_true, inOrder_iff, inOrder_iff]
  exact Int32.le_total r.order s.order

/-- Sorting keeps the rules of one priority as they came. -/
theorem filter_mergeSort (rules : List SortRule) (n : Int32) :
    (rules.mergeSort inOrder).filter (fun r => r.order = n)
      = rules.filter fun r => r.order = n := by
  have hperm : ((rules.mergeSort inOrder).filter fun r => r.order = n).Perm
      (rules.filter fun r => r.order = n) := (List.mergeSort_perm rules inOrder).filter _
  have hordered : (rules.filter fun r => r.order = n).Pairwise fun r s => inOrder r s = true := by
    rw [List.pairwise_iff_forall_sublist]
    intro r s hsub
    have hr := (List.mem_filter.1 (hsub.subset List.mem_cons_self)).2
    have hs := (List.mem_filter.1 (hsub.subset (List.mem_cons_of_mem _ List.mem_cons_self))).2
    rw [inOrder_iff, of_decide_eq_true hr, of_decide_eq_true hs]
    exact Int32.le_refl n
  have hsub := (List.sublist_mergeSort inOrder_trans inOrder_total hordered
    List.filter_sublist).filter fun r => decide (r.order = n)
  rw [List.filter_filter] at hsub
  simp only [Bool.and_self] at hsub
  exact (hsub.eq_of_length hperm.length_eq.symm).symm

/-- The active rules of a priority are of that priority and active. -/
theorem filter_takesPart (rules : List SortRule) (n : Int32) :
    (rules.filter takesPart).filter (fun r => r.order = n)
      = rules.filter fun r => r.direction ≠ .unsorted ∧ r.order = n := by
  rw [List.filter_filter]
  apply List.filter_congr
  intro r _
  simp [takesPart, Bool.and_comm]

/-- **Rankings.**  There is one ranking of any rules, the stable sort of the active ones. -/
theorem isRanking_iff {rules ranked : List SortRule} :
    IsRanking rules ranked ↔ ranked = (rules.filter takesPart).mergeSort inOrder := by
  have hsorted : IsRanking rules ((rules.filter takesPart).mergeSort inOrder) := by
    refine ⟨List.mergeSort_perm _ _, ?_, fun n => ?_⟩
    · have hordered := List.pairwise_mergeSort inOrder_trans inOrder_total (rules.filter takesPart)
      exact hordered.imp fun h => inOrder_iff.1 h
    · rw [filter_mergeSort, filter_takesPart]
  constructor
  · intro h
    apply eq_of_filter_eq h.ascending hsorted.ascending
    intro n
    rw [h.stable, hsorted.stable]
  · rintro rfl
    exact hsorted

/-! ## Keys -/

theorem AsksFor.active {r : SortRule} {k : OrderingKey} (h : AsksFor r k) :
    r.direction ≠ .unsorted := by
  intro hdirection
  have hsense := h.sense
  rw [hdirection] at hsense
  cases hsense

theorem key?_eq_some_iff {r : SortRule} {k : OrderingKey} : r.key? = some k ↔ AsksFor r k := by
  rw [key?, Option.map_eq_some_iff]
  constructor
  · rintro ⟨sense, hsense, rfl⟩
    exact ⟨rfl, hsense⟩
  · rintro ⟨hfield, hsense⟩
    exact ⟨k.sense, hsense, by rw [← hfield]⟩

/-- Each active rule asks for a key. -/
theorem exists_asksFor {r : SortRule} (h : r.direction ≠ .unsorted) : ∃ k, AsksFor r k := by
  cases hdirection : r.direction with
  | unsorted => exact absurd hdirection h
  | ascending => exact ⟨⟨r.field, .asc⟩, rfl, by rw [hdirection]; rfl⟩
  | descending => exact ⟨⟨r.field, .desc⟩, rfl, by rw [hdirection]; rfl⟩

/-- The keys are those that one of the rules asks for. -/
theorem mem_keys_iff {rules : List SortRule} {k : OrderingKey} :
    k ∈ keys rules ↔ ∃ r ∈ rules, AsksFor r k := by
  rw [keys, List.mem_filterMap]
  refine exists_congr fun r => ?_
  rw [List.mem_mergeSort, List.mem_filter, key?_eq_some_iff, takesPart, decide_eq_true_eq]
  constructor
  · rintro ⟨⟨hr, -⟩, hasks⟩
    exact ⟨hr, hasks⟩
  · rintro ⟨hr, hasks⟩
    exact ⟨⟨hr, hasks.active⟩, hasks⟩

/-- There are keys to order by if one of the rules is active. -/
theorem keys_ne_nil_iff {rules : List SortRule} :
    keys rules ≠ [] ↔ ∃ rule ∈ rules, rule.direction ≠ .unsorted := by
  constructor
  · intro hne
    obtain ⟨k, hk⟩ := List.exists_mem_of_ne_nil _ hne
    obtain ⟨r, hr, hasks⟩ := mem_keys_iff.1 hk
    exact ⟨r, hr, hasks.active⟩
  · rintro ⟨r, hr, hactive⟩
    obtain ⟨k, hasks⟩ := exists_asksFor hactive
    exact List.ne_nil_of_mem (mem_keys_iff.2 ⟨r, hr, hasks⟩)

theorem keys_eq_nil_iff {rules : List SortRule} :
    keys rules = [] ↔ ∀ rule ∈ rules, rule.direction = .unsorted := by
  rw [← not_iff_not, ← Ne, keys_ne_nil_iff]
  simp

/-- Active rules ask for one key each. -/
theorem forall₂_asksFor {ranked : List SortRule} (h : ∀ r ∈ ranked, r.direction ≠ .unsorted) :
    List.Forall₂ AsksFor ranked (ranked.filterMap key?) := by
  induction ranked with
  | nil => exact .nil
  | cons r rest ih =>
    obtain ⟨hr, hrest⟩ := List.forall_mem_cons.1 h
    obtain ⟨k, hasks⟩ := exists_asksFor hr
    rw [List.filterMap_cons_some (key?_eq_some_iff.2 hasks)]
    exact .cons hasks (ih hrest)

/-- **Keys.**  The keys are what the rules of the ranking ask for, one by one. -/
theorem asksFor_keys {rules ranked : List SortRule} (h : IsRanking rules ranked) :
    List.Forall₂ AsksFor ranked (keys rules) := by
  have hactive : ∀ r ∈ ranked, r.direction ≠ .unsorted := by
    intro r hr
    simpa using (List.mem_filter.1 (h.perm.mem_iff.1 hr)).2
  have hkeys : keys rules = ranked.filterMap key? := by
    rw [isRanking_iff.1 h, keys]
  rw [hkeys]
  exact forall₂_asksFor hactive

/-- **What counts.**  Rules with the same active ones of each priority, in the same order, give the
    same keys. -/
theorem keys_congr {rules others : List SortRule}
    (h : ∀ n, others.filter (fun r => r.direction ≠ .unsorted ∧ r.order = n)
      = rules.filter fun r => r.direction ≠ .unsorted ∧ r.order = n) :
    keys others = keys rules := by
  have hranked : IsRanking rules ((rules.filter takesPart).mergeSort inOrder) :=
    isRanking_iff.2 rfl
  have hothers : IsRanking others ((others.filter takesPart).mergeSort inOrder) :=
    isRanking_iff.2 rfl
  have heq : (others.filter takesPart).mergeSort inOrder
      = (rules.filter takesPart).mergeSort inOrder := by
    apply eq_of_filter_eq hothers.ascending hranked.ascending
    intro n
    rw [hothers.stable, hranked.stable, h]
  rw [keys, keys, heq]

/-- Inactive rules make no difference to the keys. -/
theorem keys_of_active {rules others : List SortRule}
    (h : others.filter (fun r => r.direction ≠ .unsorted)
      = rules.filter fun r => r.direction ≠ .unsorted) : keys others = keys rules := by
  apply keys_congr
  intro n
  rw [← filter_takesPart, ← filter_takesPart]
  exact congrArg (List.filter fun r => r.order = n) h

/-- How rules of different priorities are mixed makes none either. -/
theorem keys_of_priorities {rules others : List SortRule}
    (h : ∀ n, others.filter (fun r => r.order = n) = rules.filter fun r => r.order = n) :
    keys others = keys rules := by
  apply keys_congr
  intro n
  have hpriority : ∀ rules : List SortRule,
      rules.filter (fun r => r.direction ≠ .unsorted ∧ r.order = n)
        = (rules.filter fun r => r.order = n).filter takesPart := by
    intro rules
    rw [List.filter_filter]
    apply List.filter_congr
    intro r _
    rw [takesPart, Bool.decide_and]
  rw [hpriority, hpriority, h]

end SortRule

end FilterPlan
