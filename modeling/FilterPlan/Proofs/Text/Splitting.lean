/-
  What cutting and trimming mean, apart from how they are done.

  1. **Stretches** — `SplitsInto` says which texts stand between the separators of a text: none of
     them holds a separator, and joined they are the text.
  2. **First cuts** — `cutChars?` finds the only place where a text free of the separator comes
     before it.
  3. **Cores** — `TrimsTo` says what a text is without the white space around it: blank characters
     on either side were taken away, and no more can be.
  4. **The crux** — each relation holds of exactly one result, the one that the library computes
     (`splitsInto_iff`, `trimsTo_iff`).  A specification is written with the relations, a program
     with the functions.
-/
import Mathlib.Data.List.Forall2
import FilterPlan.Text.Blank
import FilterPlan.Text.Split

namespace FilterPlan.Text

/-! ## Stretches -/

/-- The parts are the stretches of the text between its separators. -/
structure SplitsInto (separator : Char) (text : String) (parts : List String) : Prop where
  nonempty : parts ≠ []
  free : ∀ p ∈ parts, separator ∉ p.toList
  joined : [separator].intercalate (parts.map String.toList) = text.toList

/-- No stretch that `splitOn` finds holds the separator. -/
theorem not_mem_of_mem_splitOn {separator : Char} {cs stretch : List Char}
    (h : stretch ∈ cs.splitOn separator) : separator ∉ stretch := by
  induction cs generalizing stretch with
  | nil =>
    rw [List.splitOn_nil, List.mem_singleton] at h
    rw [h]
    exact List.not_mem_nil
  | cons c cs ih =>
    rw [List.splitOn_cons_eq_if_modifyHead] at h
    by_cases hc : c = separator
    · rw [if_pos (beq_iff_eq.2 hc)] at h
      rcases List.mem_cons.1 h with rfl | h
      · exact List.not_mem_nil
      · exact ih h
    · rw [if_neg (fun he => hc (beq_iff_eq.1 he))] at h
      obtain ⟨first, others, hsplit⟩ :=
        List.exists_cons_of_ne_nil (List.splitOn_ne_nil separator cs)
      rw [hsplit, List.modifyHead_cons] at h
      rcases List.mem_cons.1 h with rfl | h
      · have hfirst : separator ∉ first := ih (hsplit ▸ List.mem_cons_self)
        intro hm
        rcases List.mem_cons.1 hm with heq | hm
        · exact hc heq.symm
        · exact hfirst hm
      · exact ih (hsplit ▸ List.mem_cons_of_mem first h)

theorem toList_pieces (separator : Char) (text : String) :
    (pieces separator text).map String.toList = text.toList.splitOn separator := by
  simp [pieces, Function.comp_def]

/-- **Stretches are pieces.**  There is one way to split a text at its separators, and `pieces`
    finds it. -/
theorem splitsInto_iff {separator : Char} {text : String} {parts : List String} :
    SplitsInto separator text parts ↔ parts = pieces separator text := by
  constructor
  · intro h
    have htext : text = join separator parts := by
      rw [join, h.joined, String.ofList_toList]
    rw [htext, pieces_join h.nonempty h.free]
  · rintro rfl
    refine ⟨?_, ?_, ?_⟩
    · simp [pieces]
    · intro p hp
      have hmem : p.toList ∈ text.toList.splitOn separator := by
        rw [← toList_pieces]
        exact List.mem_map_of_mem hp
      exact not_mem_of_mem_splitOn hmem
    · rw [toList_pieces, List.intercalate_splitOn]

/-- The characters of a part come from the text. -/
theorem mem_of_mem_intercalate {separator x : Char} {parts : List (List Char)} {part : List Char}
    (hpart : part ∈ parts) (hx : x ∈ part) : x ∈ [separator].intercalate parts := by
  induction parts with
  | nil => cases hpart
  | cons first rest ih =>
    cases rest with
    | nil =>
      rw [List.mem_singleton] at hpart
      rw [List.intercalate_singleton, ← hpart]
      exact hx
    | cons second rest =>
      rw [List.intercalate_cons_cons]
      rcases List.mem_cons.1 hpart with rfl | hpart
      · exact List.mem_append_left _ (List.mem_append_left _ hx)
      · exact List.mem_append_right _ (ih hpart)

theorem mem_of_mem_pieces {separator x : Char} {text piece : String}
    (hpiece : piece ∈ pieces separator text) (hx : x ∈ piece.toList) : x ∈ text.toList := by
  have hsplit : SplitsInto separator text (pieces separator text) := splitsInto_iff.2 rfl
  rw [← hsplit.joined]
  exact mem_of_mem_intercalate (List.mem_map_of_mem hpiece) hx

/-! ## First cuts -/

/-- **First cuts.**  What is cut off before a separator is free of it, and nothing is lost. -/
theorem cutChars?_eq_some_iff {separator : Char} {cs head rest : List Char} :
    cutChars? separator cs = some (head, rest) ↔
      cs = head ++ separator :: rest ∧ separator ∉ head := by
  constructor
  · intro h
    induction cs generalizing head with
    | nil => simp [cutChars?] at h
    | cons c cs ih =>
      rw [cutChars?] at h
      by_cases hc : c = separator
      · rw [if_pos hc] at h
        obtain ⟨rfl, rfl⟩ := Prod.mk.inj (Option.some.inj h)
        exact ⟨by rw [hc, List.nil_append], List.not_mem_nil⟩
      · rw [if_neg hc] at h
        obtain ⟨⟨tail, rest'⟩, hcut, heq⟩ := Option.map_eq_some_iff.1 h
        obtain ⟨rfl, rfl⟩ := Prod.mk.inj heq
        obtain ⟨rfl, hfree⟩ := ih hcut
        refine ⟨rfl, ?_⟩
        intro hm
        rcases List.mem_cons.1 hm with he | hm
        · exact hc he.symm
        · exact hfree hm
  · rintro ⟨rfl, hfree⟩
    exact cutChars?_append hfree rest

theorem cut?_eq_some_iff {separator : Char} {text head rest : String} :
    cut? separator text = some (head, rest) ↔
      text.toList = head.toList ++ separator :: rest.toList ∧ separator ∉ head.toList := by
  rw [← cutChars?_eq_some_iff, cut?]
  constructor
  · intro h
    obtain ⟨⟨head', rest'⟩, hcut, heq⟩ := Option.map_eq_some_iff.1 h
    obtain ⟨rfl, rfl⟩ := Prod.mk.inj heq
    simpa using hcut
  · intro h
    simp [h]

/-! ## Cores -/

/-- The core is the text without the white space at either end. -/
structure TrimsTo (text core : String) : Prop where
  surrounded : ∃ before after : List Char, (∀ c ∈ before, isBlank c = true) ∧
    (∀ c ∈ after, isBlank c = true) ∧ text.toList = before ++ core.toList ++ after
  head : ∀ c ∈ core.toList.head?, isBlank c = false
  last : ∀ c ∈ core.toList.getLast?, isBlank c = false

/-- A core has nothing around it that could be taken away. -/
theorem TrimsTo.core {text core : String} (h : TrimsTo text core) : TrimsTo core core :=
  ⟨⟨[], [], List.forall_mem_nil _, List.forall_mem_nil _, by simp⟩, h.head, h.last⟩

/-- The characters of a core come from the text. -/
theorem TrimsTo.mem {text core : String} (h : TrimsTo text core) {c : Char}
    (hc : c ∈ core.toList) : c ∈ text.toList := by
  obtain ⟨before, after, -, -, htext⟩ := h.surrounded
  rw [htext]
  exact List.mem_append_left _ (List.mem_append_right _ hc)

/-- What `dropWhile` keeps does not begin with a character that it drops. -/
theorem head?_dropWhile_isBlank {cs : List Char} {c : Char}
    (h : c ∈ (cs.dropWhile isBlank).head?) : isBlank c = false := by
  have hkept := List.head?_dropWhile_not isBlank cs
  rw [Option.mem_def.1 h] at hkept
  simpa using hkept

/-- A text is its core between two blank stretches. -/
theorem strip_surrounded (cs : List Char) : ∃ before after : List Char,
    (∀ c ∈ before, isBlank c = true) ∧ (∀ c ∈ after, isBlank c = true) ∧
      cs = before ++ strip cs ++ after := by
  have dropped : ∀ l : List Char, ∀ c ∈ l.takeWhile isBlank, isBlank c = true := by
    intro l c hc
    exact List.all_eq_true.1 List.all_takeWhile c hc
  refine ⟨cs.takeWhile isBlank, ((cs.dropWhile isBlank).reverse.takeWhile isBlank).reverse,
    dropped cs, ?_, ?_⟩
  · intro c hc
    exact dropped _ c (List.mem_reverse.1 hc)
  · rw [strip, List.append_assoc, ← List.reverse_append, List.takeWhile_append_dropWhile,
      List.reverse_reverse, List.takeWhile_append_dropWhile]

/-- A core does not begin with a blank character: it begins as the text does once the blank
    characters in front are dropped. -/
theorem strip_head {cs : List Char} {c : Char} (h : c ∈ (strip cs).head?) :
    isBlank c = false := by
  have hback := List.takeWhile_append_dropWhile (p := isBlank)
    (l := (cs.dropWhile isBlank).reverse)
  have hfront : cs.dropWhile isBlank
      = strip cs ++ ((cs.dropWhile isBlank).reverse.takeWhile isBlank).reverse := by
    rw [strip, ← List.reverse_append, hback, List.reverse_reverse]
  have hkept : c ∈ (cs.dropWhile isBlank).head? := by
    rw [hfront, Option.mem_def, List.head?_append, Option.mem_def.1 h, Option.some_or]
  exact head?_dropWhile_isBlank hkept

theorem strip_last {cs : List Char} {c : Char} (h : c ∈ (strip cs).getLast?) :
    isBlank c = false := by
  rw [strip, List.getLast?_reverse] at h
  exact head?_dropWhile_isBlank h

/-- A core put between blank stretches is what stripping finds there. -/
theorem strip_append {before core after : List Char} (hbefore : ∀ c ∈ before, isBlank c = true)
    (hafter : ∀ c ∈ after, isBlank c = true) (head : ∀ c ∈ core.head?, isBlank c = false)
    (last : ∀ c ∈ core.getLast?, isBlank c = false) :
    strip (before ++ core ++ after) = core := by
  cases core with
  | nil =>
    rw [strip_eq_nil_iff, List.append_nil, List.all_append, Bool.and_eq_true]
    exact ⟨List.all_eq_true.2 hbefore, List.all_eq_true.2 hafter⟩
  | cons c core =>
    have hfront : (before ++ (c :: core) ++ after).dropWhile isBlank = (c :: core) ++ after := by
      rw [List.append_assoc, List.dropWhile_append_of_pos hbefore, List.cons_append,
        List.dropWhile_cons_of_neg (by simp [head c rfl])]
    have hblank : ∀ x ∈ after.reverse, isBlank x = true :=
      fun x hx => hafter x (List.mem_reverse.1 hx)
    have hkept : ((c :: core).reverse).dropWhile isBlank = (c :: core).reverse := by
      have hne : (c :: core).reverse ≠ [] := by simp
      obtain ⟨x, rest, hx⟩ := List.exists_cons_of_ne_nil hne
      have hlast : isBlank x = false := by
        apply last
        rw [Option.mem_def, List.getLast?_eq_head?_reverse, hx, List.head?_cons]
      rw [hx, List.dropWhile_cons_of_neg (by simp [hlast])]
    rw [strip, hfront, List.reverse_append, List.dropWhile_append_of_pos hblank, hkept,
      List.reverse_reverse]

/-- **Cores are trimmed texts.**  A text has one core, and `trim` finds it. -/
theorem trimsTo_iff {text core : String} : TrimsTo text core ↔ core = trim text := by
  constructor
  · intro h
    obtain ⟨before, after, hbefore, hafter, htext⟩ := h.surrounded
    rw [trim, htext, strip_append hbefore hafter h.head h.last, String.ofList_toList]
  · rintro rfl
    refine ⟨?_, ?_, ?_⟩
    · rw [toList_trim]
      exact strip_surrounded text.toList
    · rw [toList_trim]
      exact fun c hc => strip_head hc
    · rw [toList_trim]
      exact fun c hc => strip_last hc

theorem TrimsTo.unique {text core core' : String} (h : TrimsTo text core)
    (h' : TrimsTo text core') : core = core' := by
  rw [trimsTo_iff.1 h, trimsTo_iff.1 h']

/-- Cores piece by piece are the trimmed pieces. -/
theorem forall₂_trimsTo_iff {texts cores : List String} :
    List.Forall₂ TrimsTo texts cores ↔ cores = texts.map trim := by
  constructor
  · intro h
    induction h with
    | nil => rfl
    | cons hcore _ ih => rw [ih, trimsTo_iff.1 hcore, List.map_cons]
  · rintro rfl
    induction texts with
    | nil => exact .nil
    | cons text texts ih => exact .cons (trimsTo_iff.2 rfl) ih

/-- A text with nothing but white space in it is trimmed to nothing. -/
theorem trim_eq_empty_iff {text : String} : trim text = "" ↔ allBlank text = true := by
  rw [trim, allBlank, ← strip_eq_nil_iff, String.ofList_eq_empty_iff]

end FilterPlan.Text
