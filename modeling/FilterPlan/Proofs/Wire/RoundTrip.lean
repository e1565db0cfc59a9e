/-
  Everything that is written is read back.

  1. **Records** — a record that is written with all of its fields gives them all, so its decoder
     gets back what was encoded, part by part.
  2. **Requests** — these are written from conditions and sort rules but read as entries.  Either
     can be read on its own, and then the entries resolve to the same (`ofJson?_eq_resolve`).
  3. **The crux (`written_reads_back`)** — texts in either layout are documents of their value, so
     what holds of values holds of texts.
-/
import FilterPlan.Proofs.Wire.Direct
import FilterPlan.Wire.Settings

namespace FilterPlan

open Json

/-! ## Vocabulary -/

theorem natBelow?_nat {bound n : Nat} (h : n < bound) : (Json.nat n).natBelow? bound = some n :=
  (decodes_nat _ _).2 ⟨rfl, h⟩

theorem Label.ofJson?_nat {n : Nat} (h : n < UInt64.size) :
    Label.ofJson? (.nat n) = some (.code n) :=
  (decodes_label _ _).2 (.code h)

theorem Operator.ofJson?_toJson (op : Operator) : Operator.ofJson? op.toJson = some op := by
  have hcode : op.code < UInt64.size := by cases op <;> decide
  have hlabel : Operator.ofLabel (.code op.code) = .ok op := ofCode_code op
  rw [Operator.ofJson?, Operator.toJson, Label.ofJson?_nat hcode, Option.bind_some, hlabel]
  rfl

theorem Direction.ofJson?_toJson (d : Direction) : Direction.ofJson? d.toJson = some d := by
  have hcode : d.code < UInt64.size := by cases d <;> decide
  have hlabel : Direction.ofLabel (.code d.code) = .ok d := ofCode_code d
  rw [Direction.ofJson?, Direction.toJson, Label.ofJson?_nat hcode, Option.bind_some, hlabel]
  rfl

theorem Dialect.ofJson?_toJson (d : Dialect) : Dialect.ofJson? d.toJson = some d := by
  cases d <;> rfl

/-! ## Records -/

theorem Condition.ofJson?_toJson (c : Condition) : Condition.ofJson? c.toJson = some c := by
  have hgives : Gives [["field"], ["value"], ["operator"], ["skipIfValueEmpty"]] c.toJson _ :=
    gives_record (by simp) (by decide)
  rw [Condition.ofJson?, Option.bind_eq_bind,
    record_of_gives (fun row row' h => by simp only [Row.required, Row.optional, h]) hgives,
    required_of_given rfl c.operator.ofJson?_toJson]
  rfl

theorem SortRule.ofJson?_toJson (r : SortRule) : SortRule.ofJson? r.toJson = some r := by
  have hgives : Gives [["field"], ["order"], ["direction", "type"]] r.toJson _ :=
    gives_record (by simp) (by decide)
  have horder : int32? (.int r.order.toInt) = some r.order := (decodes_int32 _ _).2 rfl
  rw [SortRule.ofJson?, Option.bind_eq_bind,
    record_of_gives (fun row row' h => by simp only [Row.required, Row.optional, h]) hgives,
    optional_of_given rfl horder, optional_of_given rfl r.direction.ofJson?_toJson]
  rfl

theorem Page.ofJson?_toJson (p : Page) : Page.ofJson? p.toJson = some p := by
  have hgives : Gives [["pageNumber"], ["pageSize"]] p.toJson _ :=
    gives_record (by simp) (by decide)
  rw [Page.ofJson?, Option.bind_eq_bind,
    record_of_gives (fun row row' h => by simp only [Row.required, h]) hgives,
    required_of_given rfl (natBelow?_nat p.number.toNat_lt),
    required_of_given rfl (natBelow?_nat p.size.toNat_lt)]
  simp

theorem Window.ofJson?_toJson (w : Window) : Window.ofJson? w.toJson = some w := by
  have hgives : Gives [["offset"], ["limit"]] w.toJson _ := gives_record (by simp) (by decide)
  rw [Window.ofJson?, Option.bind_eq_bind,
    record_of_gives (fun row row' h => by simp only [Row.required, h]) hgives,
    required_of_given rfl (natBelow?_nat w.offset.toNat_lt),
    required_of_given rfl (natBelow?_nat w.limit.toNat_lt)]
  simp

/-- A list is read back if its items are. -/
theorem list?_map {α : Type} {decode : Json → Option α} {encode : α → Json}
    (h : ∀ a, decode (encode a) = some a) (as : List α) :
    list? decode (.array (as.map encode)) = some as := by
  refine mapM_eq_some_iff.2 (List.forall₂_map_left_iff.2 (List.forall₂_same.2 fun a _ => h a))

theorem Predicate.ofJson?_toJson (p : Predicate) : Predicate.ofJson? p.toJson = some p := by
  have hgives : Gives [["expression"], ["arguments"]] p.toJson _ :=
    gives_record (by simp) (by decide)
  have harguments : list? text? (.array (p.arguments.map .text)) = some p.arguments :=
    list?_map (fun _ => rfl : ∀ s, text? (.text s) = some s) p.arguments
  rw [Predicate.ofJson?, Option.bind_eq_bind,
    record_of_gives (fun row row' h => by simp only [Row.required, h]) hgives,
    required_of_given rfl harguments]
  rfl

theorem Separators.ofJson?_toJson (s : Separators) : Separators.ofJson? s.toJson = some s := by
  have hgives : Gives [["fieldSeparator"], ["valueSeparator"]] s.toJson _ :=
    gives_record (by simp) (by decide)
  have hchar : ∀ c : Char, char? (.text c.toString) = some c := fun c => (decodes_char _ _).2 rfl
  rw [Separators.ofJson?, Option.bind_eq_bind,
    record_of_gives (fun row row' h => by simp only [Row.optional, h]) hgives]
  dsimp only
  rw [optional_of_given rfl (hchar s.field), optional_of_given rfl (hchar s.value)]
  rfl

theorem Settings.ofJson?_toJson (s : Settings) : Settings.ofJson? s.toJson = some s := by
  have hgives : Gives [["syntax"], ["dialect"]] s.toJson _ := gives_record (by simp) (by decide)
  rw [Settings.ofJson?, Option.bind_eq_bind,
    record_of_gives (fun row row' h => by simp only [Row.optional, h]) hgives,
    optional_of_given rfl s.separators.ofJson?_toJson,
    optional_of_given rfl s.dialect.ofJson?_toJson]
  rfl

/-! ## Requests -/

theorem not_givesNullDirection_toJson (r : SortRule) : ¬ GivesNullDirection r.toJson := by
  intro h
  have hnone := SortRule.ofJson?_of_null h
  rw [r.ofJson?_toJson] at hnone
  cases hnone

/-- What is read back on its own is read as entries that resolve to it. -/
theorem entries_resolve {ε α β : Type} {decode : Json → Option α} {entry : Json → Option β}
    {resolve : β → Except ε α} {encode : α → Json} (hread : ∀ a, decode (encode a) = some a)
    (hresolve : ∀ a, decode (encode a) = (entry (encode a)).bind fun e => (resolve e).toOption)
    (as : List α) :
    ∃ entries, list? entry (.array (as.map encode)) = some entries
      ∧ entries.mapM resolve = .ok as := by
  have hitems : ∀ item ∈ (Json.array (as.map encode)).items,
      decode item = (entry item).bind fun e => (resolve e).toOption := by
    intro item hitem
    obtain ⟨a, -, rfl⟩ := List.mem_map.1 hitem
    exact hresolve a
  have hdirect := list?_map hread as
  rw [list?_eq_resolve hitems] at hdirect
  obtain ⟨entries, hentries, has⟩ := Option.bind_eq_some_iff.1 hdirect
  refine ⟨entries, hentries, ?_⟩
  cases h : entries.mapM resolve with
  | error e =>
    rw [h] at has
    cases has
  | ok as' =>
    rw [h] at has
    cases has
    rfl

theorem Request.resolve_toJson (r : Request) :
    ∃ entry, RequestEntry.ofJson? r.toJson = some entry ∧ entry.resolve = .ok r := by
  obtain ⟨conditions, hconditions, hresolve⟩ := entries_resolve Condition.ofJson?_toJson
    (fun c => Condition.ofJson?_eq_resolve c.toJson) r.conditions
  obtain ⟨sorts, hsorts, hresolve'⟩ := entries_resolve SortRule.ofJson?_toJson
    (fun rule => SortRule.ofJson?_eq_resolve (not_givesNullDirection_toJson rule)) r.sorts
  have hpage : nullable? Page.ofJson? (.optional Page.toJson r.page) = some r.page := by
    cases r.page with
    | none => rfl
    | some p =>
      show (Page.ofJson? p.toJson).map some = _
      rw [p.ofJson?_toJson]
      rfl
  have hgives : Gives [["conditions"], ["sorts"], ["page"]] r.toJson _ :=
    gives_record (by simp) (by decide)
  refine ⟨⟨conditions, sorts, r.page⟩, ?_, ?_⟩
  · rw [RequestEntry.ofJson?, Option.bind_eq_bind,
      record_of_gives (fun row row' h => by simp only [Row.optional, h]) hgives,
      optional_of_given rfl hconditions, optional_of_given rfl hsorts, optional_of_given rfl hpage]
    rfl
  · rw [RequestEntry.resolve, hresolve, hresolve']
    rfl

/-! ## Texts -/

/-- A text of a value is decoded as the value is. -/
theorem decode_textOf {α : Type} {decode : Json → Option α} {j : Json} {a : α}
    (h : decode j = some a) (lines : Bool) : (read? (textOf lines j)).bind decode = some a := by
  rw [read?_textOf]
  exact h

/-- **Written, then read.**  Whatever is written as a text, in either layout, is read back.  Of
    settings that are read from a text, the separators are validated as well. -/
theorem written_reads_back (lines : Bool) :
    (∀ r : Request, Request.ofText (textOf lines r.toJson) = .ok r)
    ∧ (∀ c : Condition, (read? (textOf lines c.toJson)).bind Condition.ofJson? = some c)
    ∧ (∀ r : SortRule, (read? (textOf lines r.toJson)).bind SortRule.ofJson? = some r)
    ∧ (∀ s : Separators, (read? (textOf lines s.toJson)).bind Separators.ofJson? = some s)
    ∧ (∀ p : Predicate, (read? (textOf lines p.toJson)).bind Predicate.ofJson? = some p)
    ∧ (∀ p : Page, (read? (textOf lines p.toJson)).bind Page.ofJson? = some p)
    ∧ (∀ w : Window, (read? (textOf lines w.toJson)).bind Window.ofJson? = some w)
    ∧ (∀ s : Settings, (read? (textOf lines s.toJson)).bind Settings.ofJson? = some s)
    ∧ ∀ s : Settings, Settings.ofText (textOf lines s.toJson)
      = match s.separators.validate with
        | .ok () => .ok s
        | .error e => .error (.vocabulary e) := by
  refine ⟨fun r => ?_, fun c => decode_textOf c.ofJson?_toJson lines,
    fun r => decode_textOf r.ofJson?_toJson lines, fun s => decode_textOf s.ofJson?_toJson lines,
    fun p => decode_textOf p.ofJson?_toJson lines, fun p => decode_textOf p.ofJson?_toJson lines,
    fun w => decode_textOf w.ofJson?_toJson lines, fun s => decode_textOf s.ofJson?_toJson lines,
    fun s => ?_⟩
  · obtain ⟨entry, hentry, hresolve⟩ := r.resolve_toJson
    rw [Request.ofText, decode_textOf hentry lines]
    dsimp only
    rw [hresolve]
    rfl
  · rw [Settings.ofText, decode_textOf s.ofJson?_toJson lines]
    dsimp only
    cases s.separators.validate <;> rfl

end FilterPlan
