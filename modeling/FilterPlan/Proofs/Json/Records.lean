/-
  What the decoders of JSON values take.

  1. **Shapes** — a shape says which values stand for which data; a decoder `Decodes` a shape when
     it takes just these.  Scalars are written in one way, lists item by item.
  2. **Records** — `Gives` says what a value gives for the fields of a record, whether it is an
     object or an array.  A field that is not given is `none`.
  3. **The crux (`record_eq_some_iff`)** — a decoder that only asks what was given for its fields
     takes a value just when it takes what the value gives.
-/
import Mathlib.Data.List.Forall2
import FilterPlan.Json.Record

namespace FilterPlan.Json

variable {α : Type} {decode : Json → Option α} {shape : Json → α → Prop}

/-! ## Shapes -/

/-- The decoder takes the values of this shape and no others. -/
def Decodes (decode : Json → Option α) (shape : Json → α → Prop) : Prop :=
  ∀ j a, decode j = some a ↔ shape j a

/-- The value is this text. -/
def IsText (j : Json) (s : String) : Prop := j = .text s

/-- The value is this truth value. -/
def IsBool (j : Json) (b : Bool) : Prop := j = .bool b

/-- The value is this integer, which is within the bounds, the upper one excluded. -/
def IsInt (lower upper : Int) (j : Json) (n : Int) : Prop := j = .int n ∧ lower ≤ n ∧ n < upper

/-- The value is this natural number, which is below the bound. -/
def IsNat (bound : Nat) (j : Json) (n : Nat) : Prop := j = .nat n ∧ n < bound

/-- The value is a text of this character. -/
def IsChar (j : Json) (c : Char) : Prop := j = .text c.toString

/-- The value is an array whose items have the shape. -/
def IsList (shape : Json → α → Prop) (j : Json) (as : List α) : Prop :=
  ∃ items, j = .array items ∧ List.Forall₂ shape items as

/-- The value has the shape, or is null and stands for nothing. -/
inductive OrNull (shape : Json → α → Prop) : Json → Option α → Prop
  | null : OrNull shape .null none
  | value {j a} (h : shape j a) : OrNull shape j (some a)

theorem decodes_text : Decodes text? IsText := by
  intro j s
  fun_cases text? j with
  | case1 s => simp [IsText]
  | case2 j hne => exact ⟨nofun, fun h => (hne s h).elim⟩

theorem decodes_bool : Decodes bool? IsBool := by
  intro j b
  fun_cases bool? j with
  | case1 b => simp [IsBool]
  | case2 j hne => exact ⟨nofun, fun h => (hne b h).elim⟩

theorem decodes_int {lower upper : Int} :
    Decodes (intWithin? lower upper) (IsInt lower upper) := by
  intro j n
  fun_cases intWithin? lower upper j with
  | case1 m hm =>
    constructor
    · intro h
      obtain rfl := Option.some.inj h
      exact ⟨rfl, hm⟩
    · rintro ⟨h, -⟩
      cases h
      rfl
  | case2 m hm =>
    refine ⟨nofun, ?_⟩
    rintro ⟨h, hn⟩
    cases h
    exact absurd hn hm
  | case3 j hne => exact ⟨nofun, fun h => (hne n h.1).elim⟩

theorem decodes_nat {bound : Nat} : Decodes (natBelow? bound) (IsNat bound) := by
  intro j n
  rw [natBelow?, Option.map_eq_some_iff]
  constructor
  · rintro ⟨m, hm, rfl⟩
    obtain ⟨rfl, hlower, hupper⟩ := (decodes_int j m).1 hm
    refine ⟨?_, by omega⟩
    rw [nat, Int.toNat_of_nonneg hlower]
  · rintro ⟨rfl, hn⟩
    exact ⟨n, (decodes_int _ _).2 ⟨rfl, by omega, by omega⟩, rfl⟩

theorem decodes_char : Decodes char? IsChar := by
  intro j c
  have htext : j.char? = some c ↔ j.text?.map String.toList = some [c] := by
    fun_cases char? j with
    | case1 d hd => simp [hd]
    | case2 hne => exact ⟨nofun, fun h => (hne c h).elim⟩
  have hchar : c.toString.toList = [c] := String.toList_singleton c
  rw [htext, Option.map_eq_some_iff]
  constructor
  · rintro ⟨s, hs, hc⟩
    obtain rfl : s = c.toString := String.toList_inj.1 (hc.trans hchar.symm)
    exact (decodes_text j _).1 hs
  · intro h
    exact ⟨c.toString, (decodes_text _ _).2 h, hchar⟩

/-- A list is decoded item by item. -/
theorem mapM_eq_some_iff {ι : Type} {f : ι → Option α} {xs : List ι} {as : List α} :
    xs.mapM f = some as ↔ List.Forall₂ (fun x a => f x = some a) xs as := by
  induction xs generalizing as with
  | nil => simp [eq_comm]
  | cons x xs ih =>
    rw [List.mapM_cons, List.forall₂_cons_left_iff]
    constructor
    · intro h
      obtain ⟨a, ha, h⟩ := Option.bind_eq_some_iff.1 h
      obtain ⟨rest, hrest, h⟩ := Option.bind_eq_some_iff.1 h
      exact ⟨a, rest, ha, ih.1 hrest, (Option.some.inj h).symm⟩
    · rintro ⟨a, rest, ha, hrest, rfl⟩
      rw [ha, ih.2 hrest]
      rfl

/-- What is paired from the right has a partner on the left. -/
theorem forall₂_exists_left {ι κ : Type} {R : ι → κ → Prop} {xs : List ι} {ys : List κ}
    (h : List.Forall₂ R xs ys) {y : κ} (hy : y ∈ ys) : ∃ x ∈ xs, R x y := by
  induction h with
  | nil => cases hy
  | cons hx _ ih =>
    rcases List.mem_cons.1 hy with rfl | hy
    · exact ⟨_, List.mem_cons_self, hx⟩
    · obtain ⟨x, hmem, hxy⟩ := ih hy
      exact ⟨x, List.mem_cons_of_mem _ hmem, hxy⟩

theorem Decodes.list (h : Decodes decode shape) : Decodes (list? decode) (IsList shape) := by
  intro j as
  fun_cases list? decode j with
  | case1 items =>
    have hshape : (fun item a => decode item = some a) = shape := by
      funext item a
      exact propext (h item a)
    rw [mapM_eq_some_iff, hshape]
    constructor
    · exact fun hitems => ⟨items, rfl, hitems⟩
    · rintro ⟨_, hj, hitems⟩
      cases hj
      exact hitems
  | case2 j hne =>
    refine ⟨nofun, ?_⟩
    rintro ⟨items, hj, -⟩
    exact (hne items hj).elim

theorem Decodes.orNull (h : Decodes decode shape) (hnull : ∀ a, ¬ shape .null a) :
    Decodes (nullable? decode) (OrNull shape) := by
  intro j o
  fun_cases nullable? decode j with
  | case1 =>
    constructor
    · intro ho
      rw [← Option.some.inj ho]
      exact .null
    · intro ho
      cases ho with
      | null => rfl
      | value hvalue => exact absurd hvalue (hnull _)
  | case2 j hne =>
    rw [Option.map_eq_some_iff]
    constructor
    · rintro ⟨a, ha, rfl⟩
      exact .value ((h j a).1 ha)
    · intro ho
      cases ho with
      | null => exact (hne rfl).elim
      | value hvalue => exact ⟨_, (h _ _).2 hvalue, rfl⟩

/-! ## Records -/

/-- Holds of the members that give a field with these names. -/
def isNamed (names : List String) (m : Option String × Json) : Bool := m.1.any names.contains

/-- What the value gives for the fields of a record.  An object gives a field under one of its
    names and not twice; an array gives the first fields. -/
inductive Gives (fields : List (List String)) : Json → List (Option Json) → Prop
  | object {members given} (hkeys : ∀ m ∈ members, m.1.isSome = true)
    (h : List.Forall₂ (fun names g => (members.filter (isNamed names)).map Prod.snd = g.toList)
      fields given) :
    Gives fields (.object members) given
  | array {items} (h : items.length ≤ fields.length) :
    Gives fields (.array items)
      (items.map some ++ List.replicate (fields.length - items.length) none)

theorem Gives.length {fields : List (List String)} {j : Json} {given : List (Option Json)}
    (h : Gives fields j given) : given.length = fields.length := by
  cases h with
  | object hkeys h => exact h.length_eq.symm
  | array h =>
    rw [List.length_append, List.length_map, List.length_replicate]
    omega

theorem Gives.two {a b : List String} {j : Json} {given : List (Option Json)}
    (h : Gives [a, b] j given) : ∃ x y, given = [x, y] :=
  List.length_eq_two.1 h.length

theorem Gives.three {a b c : List String} {j : Json} {given : List (Option Json)}
    (h : Gives [a, b, c] j given) : ∃ x y z, given = [x, y, z] :=
  List.length_eq_three.1 h.length

theorem Gives.four {a b c d : List String} {j : Json} {given : List (Option Json)}
    (h : Gives [a, b, c, d] j given) : ∃ x y z w, given = [x, y, z, w] := by
  cases given with
  | nil => cases h.length
  | cons x rest =>
    obtain ⟨y, z, w, rfl⟩ := List.length_eq_three.1 (Nat.succ.inj h.length)
    exact ⟨x, y, z, w, rfl⟩

theorem isNamed_eq_true_iff {names : List String} {key : String} {j : Json} :
    isNamed names (some key, j) = true ↔ key ∈ names := by
  simp [isNamed]

/-- Fields without a common name are given by the members with their names, one each. -/
theorem gives_record {fields : List (List String)} {members : List (String × Json)}
    (hnames : List.Forall₂ (fun names m => m.1 ∈ names) fields members)
    (hapart : fields.Pairwise fun names names' => ∀ name ∈ names, name ∉ names') :
    Gives fields (.record members) (members.map fun m => some m.2) := by
  refine .object (fun m hm => ?_) ?_
  · obtain ⟨m', -, rfl⟩ := List.mem_map.1 hm
    rfl
  induction hnames with
  | nil => exact .nil
  | @cons names m fields members hm hrest ih =>
    obtain ⟨hhead, htail⟩ := List.pairwise_cons.1 hapart
    rw [List.map_cons, List.map_cons]
    refine .cons ?_ ?_
    · -- no later member has a name of this field
      have hnone : (members.map fun m => ((some m.1, m.2) : Option String × Json)).filter
          (isNamed names) = [] := by
        refine List.filter_eq_nil_iff.2 fun m' hm' => ?_
        obtain ⟨m', hmem, rfl⟩ := List.mem_map.1 hm'
        obtain ⟨names', hnames', hm'⟩ := forall₂_exists_left hrest hmem
        exact fun h => hhead names' hnames' _ (isNamed_eq_true_iff.1 h) hm'
      rw [List.filter_cons_of_pos (isNamed_eq_true_iff.2 hm), hnone]
      rfl
    · -- and this one has no name of a later field
      refine ((List.forall₂_and_left _ _).2 ⟨hhead, ih htail⟩).imp fun names' g h => ?_
      rw [List.filter_cons_of_neg fun hm' => h.1 _ hm (isNamed_eq_true_iff.1 hm')]
      exact h.2

theorem given?_eq_some_iff {names : List String} {members : List (Option String × Json)}
    {g : Option Json} :
    given? names members = some g
      ↔ (members.filter (isNamed names)).map Prod.snd = g.toList := by
  fun_cases given? names members with
  | case1 hnone =>
    have hfilter : members.filter (isNamed names) = [] := hnone
    cases g <;> simp [hfilter]
  | case2 m hone =>
    have hfilter : members.filter (isNamed names) = [m] := hone
    cases g <;> simp [hfilter]
  | case3 hnone hone =>
    refine ⟨nofun, fun h => ?_⟩
    cases g with
    | none => exact (hnone (List.map_eq_nil_iff.1 h)).elim
    | some j =>
      obtain ⟨m, hm, -⟩ := List.map_eq_singleton_iff.1 h
      exact (hone m hm).elim

/-- What was given for each field is found, but for an array the fields behind its end. -/
theorem row?_of_gives {fields : List (List String)} {j : Json} {given : List (Option Json)}
    (h : Gives fields j given) :
    ∃ row, j.row? fields = some row ∧ ∀ i, row.given i = Row.given given i := by
  cases h with
  | @object members given hkeys h =>
    refine ⟨given, ?_, fun i => rfl⟩
    rw [row?, if_pos (List.all_eq_true.2 hkeys), mapM_eq_some_iff]
    exact h.imp fun names g hg => given?_eq_some_iff.2 hg
  | @array items h =>
    refine ⟨items.map some, if_pos h, fun i => ?_⟩
    rw [Row.given, Row.given, List.getElem?_append]
    split
    · rfl
    · next hi =>
      rw [List.getElem?_eq_none (Nat.le_of_not_lt hi), List.getElem?_replicate]
      split <;> rfl

theorem exists_gives {fields : List (List String)} {j : Json} {row : Row}
    (h : j.row? fields = some row) : ∃ given, Gives fields j given := by
  fun_cases row? fields j with
  | case1 members hkeys =>
    rw [row?, if_pos hkeys, mapM_eq_some_iff] at h
    exact ⟨row, .object (List.all_eq_true.1 hkeys) (h.imp fun _ _ hg => given?_eq_some_iff.1 hg)⟩
  | case2 members hkeys =>
    rw [row?, if_neg hkeys] at h
    cases h
  | case3 items hlength => exact ⟨_, .array hlength⟩
  | case4 items hlength =>
    rw [row?, if_neg hlength] at h
    cases h
  | case5 j hobject harray =>
    rw [row?.eq_3 _ _ hobject harray] at h
    cases h

/-- What is found for each field was given for it. -/
theorem gives_of_row? {fields : List (List String)} {j : Json} {row : Row}
    (h : j.row? fields = some row) :
    ∃ given, Gives fields j given ∧ ∀ i, row.given i = Row.given given i := by
  obtain ⟨given, hgives⟩ := exists_gives h
  obtain ⟨row', hrow', hsame⟩ := row?_of_gives hgives
  obtain rfl := Option.some.inj (h.symm.trans hrow')
  exact ⟨given, hgives, hsame⟩

section Records

variable {fields : List (List String)} {k : Row → Option α}

/-- What a decoder makes of a value that gives this for its fields. -/
theorem record_of_gives {j : Json} {given : List (Option Json)}
    (hk : ∀ row row' : Row, (∀ i, row.given i = row'.given i) → k row = k row')
    (hgives : Gives fields j given) : (j.row? fields).bind k = k given := by
  obtain ⟨row, hrow, hsame⟩ := row?_of_gives hgives
  rw [hrow, Option.bind_some, hk row given hsame]

/-- **Records.**  A decoder that only asks what was given for its fields takes a value just when
    it takes what the value gives. -/
theorem record_eq_some_iff {j : Json} {a : α}
    (hk : ∀ row row' : Row, (∀ i, row.given i = row'.given i) → k row = k row') :
    (j.row? fields).bind k = some a ↔ ∃ given, Gives fields j given ∧ k given = some a := by
  constructor
  · intro h
    obtain ⟨row, hrow, ha⟩ := Option.bind_eq_some_iff.1 h
    obtain ⟨given, hgives, hsame⟩ := gives_of_row? hrow
    exact ⟨given, hgives, (hk row given hsame).symm.trans ha⟩
  · rintro ⟨given, hgives, ha⟩
    exact (record_of_gives hk hgives).trans ha

/-- Values that differ in nothing that makes a difference are decoded alike. -/
theorem record_congr {j j' : Json} {given given' : List (Option Json)}
    (hk : ∀ row row' : Row, (∀ i, row.given i = row'.given i) → k row = k row')
    (hgives : Gives fields j given) (hgives' : Gives fields j' given')
    (hsame : k given = k given') : (j.row? fields).bind k = (j'.row? fields).bind k := by
  rw [record_of_gives hk hgives, record_of_gives hk hgives', hsame]

end Records

/-! ## Fields -/

/-- The field is given, with a value of the shape. -/
inductive Given (shape : Json → α → Prop) : Option Json → α → Prop
  | given {j a} (h : shape j a) : Given shape (some j) a

/-- The field is given with a value of the shape, or has its default. -/
inductive GivenOr (default : α) (shape : Json → α → Prop) : Option Json → α → Prop
  | absent : GivenOr default shape none default
  | given {j a} (h : shape j a) : GivenOr default shape (some j) a

theorem required_eq_some_iff (h : Decodes decode shape) {row : Row} {i : Nat} {a : α} :
    row.required i decode = some a ↔ Given shape (row.given i) a := by
  rw [Row.required, Option.bind_eq_some_iff]
  constructor
  · rintro ⟨j, hj, ha⟩
    rw [hj]
    exact .given ((h j a).1 ha)
  · intro hgiven
    generalize row.given i = g at hgiven
    cases hgiven with
    | given hshape => exact ⟨_, rfl, (h _ _).2 hshape⟩

theorem optional_eq_some_iff (h : Decodes decode shape) {row : Row} {i : Nat} {default a : α} :
    row.optional i decode default = some a ↔ GivenOr default shape (row.given i) a := by
  rw [Row.optional]
  generalize row.given i = g
  cases g with
  | none =>
    constructor
    · intro ha
      rw [← Option.some.inj ha]
      exact .absent
    · intro hgiven
      cases hgiven
      rfl
  | some j =>
    constructor
    · exact fun ha => .given ((h j a).1 ha)
    · intro hgiven
      cases hgiven with
      | given hshape => exact (h j a).2 hshape

theorem required_of_given {row : Row} {i : Nat} {j : Json} {a : α} (hj : row.given i = some j)
    (h : decode j = some a) : row.required i decode = some a := by
  rw [Row.required, hj]
  exact h

theorem optional_of_given {row : Row} {i : Nat} {j : Json} {default a : α}
    (hj : row.given i = some j) (h : decode j = some a) :
    row.optional i decode default = some a := by
  rw [Row.optional, hj]
  exact h

end FilterPlan.Json
