/-
  Which values are requests, and which are settings.

  1. **Labels and numbers** — a label is any text or any natural number of 64 bits, whether or not
     something answers to it.
  2. **Records** — a shape names the fields of a record, says which of them have to be given, and
     what the others are by default.
  3. **Decoders** — each decoder of a part of a request takes the values of its shape and no
     others, so a request is read from the values of `IsRequestEntry` alone
     (`decodes_requestEntry`), and settings from those of `IsSettings` (`decodes_settings`).
-/
import FilterPlan.Wire.Request
import FilterPlan.Wire.Settings
import FilterPlan.Proofs.Json.Records
import FilterPlan.Proofs.Wire.Labels

namespace FilterPlan

open Json

/-! ## Labels and numbers -/

/-- The value is a text, or a natural number of 64 bits. -/
inductive IsLabel : Json → Label → Prop
  | code {n} (hn : n < UInt64.size) : IsLabel (.nat n) (.code n)
  | name (s : String) : IsLabel (.text s) (.name s)

/-- The value is this integer of 32 bits. -/
def IsInt32 (j : Json) (n : Int32) : Prop := j = .int n.toInt

theorem decodes_label : Decodes Label.ofJson? IsLabel := by
  intro j label
  fun_cases Label.ofJson? j with
  | case1 s =>
    constructor
    · intro h
      obtain rfl := Option.some.inj h
      exact .name s
    · intro h
      cases h with
      | name => rfl
  | case2 j htext =>
    rw [Option.map_eq_some_iff]
    constructor
    · rintro ⟨n, hn, rfl⟩
      obtain ⟨rfl, hlt⟩ := (decodes_nat j n).1 hn
      exact .code hlt
    · intro h
      cases h with
      | code hn => exact ⟨_, (decodes_nat _ _).2 ⟨rfl, hn⟩, rfl⟩
      | name s => exact (htext s rfl).elim

theorem decodes_int32 : Decodes int32? IsInt32 := by
  intro j n
  rw [int32?, Option.map_eq_some_iff]
  constructor
  · rintro ⟨m, hm, rfl⟩
    obtain ⟨rfl, hlower, hupper⟩ := (decodes_int j m).1 hm
    rw [IsInt32, Int32.toInt_ofInt_of_le (by omega) (by omega)]
  · rintro rfl
    have hlower := n.le_toInt
    have hupper := n.toInt_lt
    exact ⟨n.toInt, (decodes_int _ _).2 ⟨rfl, by omega, by omega⟩, Int32.ofInt_toInt n⟩

/-! ## Records -/

/-- The value is a page. -/
def IsPage (j : Json) (p : Page) : Prop :=
  ∃ number size, Gives [["pageNumber"], ["pageSize"]] j [number, size]
    ∧ Given (IsNat UInt32.size) number p.number.toNat
    ∧ Given (IsNat UInt32.size) size p.size.toNat

/-- The value is a condition whose operator may be any label. -/
def IsConditionEntry (j : Json) (e : ConditionEntry) : Prop :=
  ∃ field value operator skip,
    Gives [["field"], ["value"], ["operator"], ["skipIfValueEmpty"]] j
      [field, value, operator, skip]
    ∧ Given IsText field e.field
    ∧ GivenOr "" IsText value e.value
    ∧ Given IsLabel operator e.operator
    ∧ GivenOr true IsBool skip e.skipIfBlank

/-- The value is a sort rule whose direction may be any label, or null. -/
def IsSortEntry (j : Json) (e : SortEntry) : Prop :=
  ∃ field order direction,
    Gives [["field"], ["order"], ["direction", "type"]] j [field, order, direction]
    ∧ Given IsText field e.field
    ∧ GivenOr 0 IsInt32 order e.order
    ∧ GivenOr none (OrNull IsLabel) direction e.direction

/-- The value is a request whose labels may be any. -/
def IsRequestEntry (j : Json) (e : RequestEntry) : Prop :=
  ∃ conditions sorts page,
    Gives [["conditions"], ["sorts"], ["page"]] j [conditions, sorts, page]
    ∧ GivenOr [] (IsList IsConditionEntry) conditions e.conditions
    ∧ GivenOr [] (IsList IsSortEntry) sorts e.sorts
    ∧ GivenOr none (OrNull IsPage) page e.page

/-- The value chooses by a word: it is the word, or an object with nothing else. -/
inductive IsChoice : Json → String → Prop
  | word (s : String) : IsChoice (.text s) s
  | member (s : String) : IsChoice (.object [(some s, .null)]) s

/-- The value chooses the dialect by its word. -/
inductive IsDialect : Json → Dialect → Prop
  | dynamicLinq {j} (h : IsChoice j "dynamicLinq") : IsDialect j .dynamicLinq
  | postgres {j} (h : IsChoice j "postgres") : IsDialect j .postgres

/-- The value gives two separators, whichever they are. -/
def IsSeparators (j : Json) (s : Separators) : Prop :=
  ∃ field value, Gives [["fieldSeparator"], ["valueSeparator"]] j [field, value]
    ∧ GivenOr ',' IsChar field s.field
    ∧ GivenOr '|' IsChar value s.value

/-- The value is the settings, with separators that may be any. -/
def IsSettings (j : Json) (s : Settings) : Prop :=
  ∃ separators dialect, Gives [["syntax"], ["dialect"]] j [separators, dialect]
    ∧ GivenOr ⟨',', '|'⟩ IsSeparators separators s.separators
    ∧ GivenOr .dynamicLinq IsDialect dialect s.dialect

/-! ## Decoders -/

theorem decodes_page : Decodes Page.ofJson? IsPage := by
  intro j p
  refine (record_eq_some_iff fun row row' h => ?_).trans ?_
  · simp only [Row.required, h]
  simp only [Option.bind_eq_bind, Option.bind_eq_some_iff, required_eq_some_iff decodes_nat]
  constructor
  · rintro ⟨given, hgives, hp⟩
    obtain ⟨number, size, rfl⟩ := hgives.two
    obtain ⟨n, hnumber, m, hsize, hp⟩ := hp
    obtain rfl := Option.some.inj hp
    refine ⟨number, size, hgives, ?_, ?_⟩
    · cases hnumber with
      | given h => exact .given (by rwa [UInt32.toNat_ofNat_of_lt' h.2])
    · cases hsize with
      | given h => exact .given (by rwa [UInt32.toNat_ofNat_of_lt' h.2])
  · rintro ⟨number, size, hgives, hnumber, hsize⟩
    refine ⟨_, hgives, p.number.toNat, hnumber, p.size.toNat, hsize, ?_⟩
    rw [UInt32.ofNat_toNat, UInt32.ofNat_toNat]
    rfl

theorem decodes_conditionEntry : Decodes ConditionEntry.ofJson? IsConditionEntry := by
  intro j e
  refine (record_eq_some_iff fun row row' h => ?_).trans ?_
  · simp only [Row.required, Row.optional, h]
  simp only [Option.bind_eq_bind, Option.bind_eq_some_iff, required_eq_some_iff decodes_text,
    optional_eq_some_iff decodes_text, required_eq_some_iff decodes_label,
    optional_eq_some_iff decodes_bool]
  constructor
  · rintro ⟨given, hgives, he⟩
    obtain ⟨field, value, operator, skip, rfl⟩ := hgives.four
    obtain ⟨f, hfield, v, hvalue, label, hoperator, b, hskip, he⟩ := he
    obtain rfl := Option.some.inj he
    exact ⟨field, value, operator, skip, hgives, hfield, hvalue, hoperator, hskip⟩
  · rintro ⟨field, value, operator, skip, hgives, hfield, hvalue, hoperator, hskip⟩
    exact ⟨_, hgives, _, hfield, _, hvalue, _, hoperator, _, hskip, rfl⟩

theorem decodes_sortEntry : Decodes SortEntry.ofJson? IsSortEntry := by
  have hdirection : Decodes (nullable? Label.ofJson?) (OrNull IsLabel) :=
    decodes_label.orNull nofun
  intro j e
  refine (record_eq_some_iff fun row row' h => ?_).trans ?_
  · simp only [Row.required, Row.optional, h]
  simp only [Option.bind_eq_bind, Option.bind_eq_some_iff, required_eq_some_iff decodes_text,
    optional_eq_some_iff decodes_int32, optional_eq_some_iff hdirection]
  constructor
  · rintro ⟨given, hgives, he⟩
    obtain ⟨field, order, direction, rfl⟩ := hgives.three
    obtain ⟨f, hfield, n, horder, label, hdirection, he⟩ := he
    obtain rfl := Option.some.inj he
    exact ⟨field, order, direction, hgives, hfield, horder, hdirection⟩
  · rintro ⟨field, order, direction, hgives, hfield, horder, hdirection⟩
    exact ⟨_, hgives, _, hfield, _, horder, _, hdirection, rfl⟩

/-- **Requests.**  The values that are read as the entry for a request are those that are one. -/
theorem decodes_requestEntry : Decodes RequestEntry.ofJson? IsRequestEntry := by
  have hpage : Decodes (nullable? Page.ofJson?) (OrNull IsPage) := decodes_page.orNull nofun
  intro j e
  refine (record_eq_some_iff fun row row' h => ?_).trans ?_
  · simp only [Row.optional, h]
  simp only [Option.bind_eq_bind, Option.bind_eq_some_iff,
    optional_eq_some_iff decodes_conditionEntry.list, optional_eq_some_iff decodes_sortEntry.list,
    optional_eq_some_iff hpage]
  constructor
  · rintro ⟨given, hgives, he⟩
    obtain ⟨conditions, sorts, page, rfl⟩ := hgives.three
    obtain ⟨cs, hconditions, ss, hsorts, p, hpage, he⟩ := he
    obtain rfl := Option.some.inj he
    exact ⟨conditions, sorts, page, hgives, hconditions, hsorts, hpage⟩
  · rintro ⟨conditions, sorts, page, hgives, hconditions, hsorts, hpage⟩
    exact ⟨_, hgives, _, hconditions, _, hsorts, _, hpage, rfl⟩

theorem decodes_choice : Decodes choice? IsChoice := by
  intro j s
  constructor
  · fun_cases choice? j with
    | case1 s' =>
      intro h
      obtain rfl := Option.some.inj h
      exact .word s'
    | case2 s' =>
      intro h
      obtain rfl := Option.some.inj h
      exact .member s'
    | case3 => exact nofun
  · intro h
    cases h <;> rfl

theorem decodes_dialect : Decodes Dialect.ofJson? IsDialect := by
  have hword : ∀ {s d}, ([Dialect.dynamicLinq, .postgres].find? fun d => d.word == s) = some d
      ↔ s = d.word := by
    intro s d
    rw [find?_eq_some_iff_of_unique (by cases d <;> decide), beq_iff_eq, eq_comm]
    intro d' h' h
    have hsame : d'.word = d.word := (beq_iff_eq.1 h').trans (beq_iff_eq.1 h).symm
    cases d <;> cases d' <;> first | rfl | exact absurd hsame (by decide)
  intro j d
  simp only [Dialect.ofJson?, Option.bind_eq_some_iff, hword, decodes_choice j, exists_eq_right]
  constructor
  · intro h
    cases d with
    | dynamicLinq => exact .dynamicLinq h
    | postgres => exact .postgres h
  · intro h
    cases h with
    | dynamicLinq h => exact h
    | postgres h => exact h

theorem decodes_separators : Decodes Separators.ofJson? IsSeparators := by
  intro j s
  refine (record_eq_some_iff fun row row' h => ?_).trans ?_
  · simp only [Row.optional, h]
  simp only [Option.bind_eq_bind, Option.bind_eq_some_iff, optional_eq_some_iff decodes_char]
  constructor
  · rintro ⟨given, hgives, hs⟩
    obtain ⟨field, value, rfl⟩ := hgives.two
    obtain ⟨f, hfield, v, hvalue, hs⟩ := hs
    obtain rfl := Option.some.inj hs
    exact ⟨field, value, hgives, hfield, hvalue⟩
  · rintro ⟨field, value, hgives, hfield, hvalue⟩
    exact ⟨_, hgives, _, hfield, _, hvalue, rfl⟩

/-- **Settings.**  The values that are read as settings are those that are some. -/
theorem decodes_settings : Decodes Settings.ofJson? IsSettings := by
  intro j s
  refine (record_eq_some_iff fun row row' h => ?_).trans ?_
  · simp only [Row.optional, h]
  simp only [Option.bind_eq_bind, Option.bind_eq_some_iff, optional_eq_some_iff decodes_separators,
    optional_eq_some_iff decodes_dialect]
  constructor
  · rintro ⟨given, hgives, hs⟩
    obtain ⟨separators, dialect, rfl⟩ := hgives.two
    obtain ⟨read, hseparators, d, hdialect, hs⟩ := hs
    obtain rfl := Option.some.inj hs
    exact ⟨separators, dialect, hgives, hseparators, hdialect⟩
  · rintro ⟨separators, dialect, hgives, hseparators, hdialect⟩
    exact ⟨_, hgives, _, hseparators, _, hdialect, rfl⟩

end FilterPlan
