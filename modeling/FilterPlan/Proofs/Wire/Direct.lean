/-
  Conditions and sort rules are read in two ways: on their own, their labels looked up at once, or
  as parts of a request.

  1. **Conditions** — reading a condition is reading an entry and resolving it.
  2. **Sort rules** — the same, but that a direction which is null is refused in a sort rule of its
     own, and in a request is one that was left out.
  3. **The crux (`request_iff_direct`)** — a request with these two parts is read just when either
     part can be read on its own, and then holds the same.
-/
import FilterPlan.Proofs.Json.Writing
import FilterPlan.Proofs.Wire.Shapes

namespace FilterPlan

open Json

/-! ## Conditions -/

/-- A condition is an entry whose label is looked up. -/
theorem Condition.ofJson?_eq_resolve (j : Json) :
    Condition.ofJson? j = (ConditionEntry.ofJson? j).bind fun e => e.resolve.toOption := by
  rw [Condition.ofJson?, ConditionEntry.ofJson?]
  cases j.row? [["field"], ["value"], ["operator"], ["skipIfValueEmpty"]] with
  | none => rfl
  | some row =>
    have hoperator : row.required 2 Operator.ofJson?
        = (row.required 2 Label.ofJson?).bind fun label => (Operator.ofLabel label).toOption :=
      (Option.bind_assoc _ _ _).symm
    simp only [Option.bind_eq_bind, Option.bind_some, hoperator]
    cases row.required 0 text? with
    | none => rfl
    | some field =>
      cases row.optional 1 text? "" with
      | none => rfl
      | some value =>
        cases row.required 2 Label.ofJson? with
        | none => rfl
        | some label =>
          cases row.optional 3 bool? true with
          | none => simp only [Option.bind_none, Option.bind_fun_none, Option.bind_some]
          | some skip =>
            simp only [Option.pure_def, Option.bind_some, ConditionEntry.resolve]
            cases Operator.ofLabel label <;> rfl

/-! ## Sort rules -/

/-- The fields of a sort rule. -/
def SortRule.fields : List (List String) := [["field"], ["order"], ["direction", "type"]]

/-- The value gives null for the direction of a sort rule. -/
def GivesNullDirection (sort : Json) : Prop :=
  ∃ field order, Gives SortRule.fields sort [field, order, some .null]

/-- The second value is the first, but for a direction that is null, which is left out. -/
inductive LeavesOutNull : Json → Json → Prop
  | same {sort} (h : ¬ GivesNullDirection sort) : LeavesOutNull sort sort
  | dropped {sort sort' field order} (h : Gives SortRule.fields sort [field, order, some .null])
    (h' : Gives SortRule.fields sort' [field, order, none]) : LeavesOutNull sort sort'

theorem exists_leavesOut {sort : Json} (h : GivesNullDirection sort) :
    ∃ sort', LeavesOutNull sort sort' := by
  obtain ⟨field, order, h⟩ := h
  refine ⟨.object (field.toList.map (fun j => (some "field", j))
    ++ order.toList.map fun j => (some "order", j)), .dropped h (.object ?_ ?_)⟩
  all_goals cases field <;> cases order <;> simp [SortRule.fields, isNamed]

/-- A direction on its own is looked up at once. -/
theorem optional_direction {row : Row} (h : row.given 2 ≠ some .null) :
    row.optional 2 Direction.ofJson? .unsorted
      = (row.optional 2 (nullable? Label.ofJson?) none).bind fun
        | none => some .unsorted
        | some label => (Direction.ofLabel label).toOption := by
  rw [Row.optional, Row.optional]
  revert h
  cases row.given 2 with
  | none => exact fun _ => rfl
  | some j =>
    intro h
    have hnull : j ≠ .null := fun hj => h (by rw [hj])
    show Direction.ofJson? j = (nullable? Label.ofJson? j).bind _
    rw [nullable?.eq_2 _ _ hnull, Direction.ofJson?]
    cases Label.ofJson? j <;> rfl

/-- A sort rule is an entry whose label is looked up, unless its direction is null. -/
theorem SortRule.ofJson?_eq_resolve {j : Json} (h : ¬ GivesNullDirection j) :
    SortRule.ofJson? j = (SortEntry.ofJson? j).bind fun e => e.resolve.toOption := by
  rw [SortRule.ofJson?, SortEntry.ofJson?]
  cases hrow : j.row? [["field"], ["order"], ["direction", "type"]] with
  | none => rfl
  | some row =>
    have hdirection : row.given 2 ≠ some .null := by
      intro hnull
      obtain ⟨given, hgives, hsame⟩ := gives_of_row? hrow
      rw [hsame] at hnull
      obtain ⟨field, order, direction, rfl⟩ := hgives.three
      obtain rfl : direction = some .null := hnull
      exact h ⟨field, order, hgives⟩
    simp only [Option.bind_eq_bind, Option.bind_some, optional_direction hdirection]
    cases row.required 0 text? with
    | none => rfl
    | some field =>
      cases row.optional 1 int32? 0 with
      | none => rfl
      | some order =>
        cases row.optional 2 (nullable? Label.ofJson?) none with
        | none => rfl
        | some label? =>
          cases label? with
          | none => rfl
          | some label =>
            simp only [Option.pure_def, Option.bind_some, SortEntry.resolve]
            cases Direction.ofLabel label <;> rfl

/-- On its own, a sort rule whose direction is null is refused. -/
theorem SortRule.ofJson?_of_null {j : Json} (h : GivesNullDirection j) :
    SortRule.ofJson? j = none := by
  obtain ⟨field, order, hgives⟩ := h
  refine (record_of_gives (fun row row' h => ?_) hgives).trans ?_
  · simp only [Row.required, Row.optional, h]
  · have hdirection : Row.optional [field, order, some .null] 2 Direction.ofJson? .unsorted = none :=
      rfl
    simp only [Option.bind_eq_bind, hdirection, Option.bind_none, Option.bind_fun_none]

/-- In a request, a direction that is null is one that was left out. -/
theorem SortEntry.ofJson?_of_leavesOut {sort sort' : Json} (h : LeavesOutNull sort sort') :
    SortEntry.ofJson? sort = SortEntry.ofJson? sort' := by
  cases h with
  | same => rfl
  | dropped h h' =>
    refine record_congr (fun row row' h => ?_) h h' rfl
    simp only [Row.required, Row.optional, h]

/-! ## Lists -/

/-- Items that are decoded and resolved one by one may as well all be decoded first. -/
theorem mapM_bind_toOption {ε ι β α : Type} {f : ι → Option β} {g : β → Except ε α} {xs : List ι} :
    (xs.mapM fun x => (f x).bind fun b => (g b).toOption)
      = (xs.mapM f).bind fun bs => (bs.mapM g).toOption := by
  induction xs with
  | nil => rfl
  | cons x xs ih =>
    rw [List.mapM_cons, List.mapM_cons, ih]
    cases f x with
    | none => rfl
    | some b =>
      cases xs.mapM f with
      | none => simp
      | some bs =>
        simp only [Option.bind_eq_bind, Option.bind_some, Option.pure_def, List.mapM_cons]
        cases g b with
        | error e => rfl
        | ok a => cases bs.mapM g <;> rfl

theorem mapM_congr {ι α : Type} {f g : ι → Option α} {xs : List ι} (h : ∀ x ∈ xs, f x = g x) :
    xs.mapM f = xs.mapM g := by
  induction xs with
  | nil => rfl
  | cons x xs ih =>
    obtain ⟨hx, hxs⟩ := List.forall_mem_cons.1 h
    rw [List.mapM_cons, List.mapM_cons, hx, ih hxs]

/-- The items of an array. -/
def Json.items : Json → List Json
  | .array items => items
  | _ => []

/-- A list is decoded and resolved item by item, or first decoded and then resolved. -/
theorem list?_eq_resolve {ε β α : Type} {decode : Json → Option α} {entry : Json → Option β}
    {resolve : β → Except ε α} {j : Json}
    (h : ∀ item ∈ j.items, decode item = (entry item).bind fun e => (resolve e).toOption) :
    list? decode j = (list? entry j).bind fun es => (es.mapM resolve).toOption := by
  cases j with
  | scalar s => rfl
  | array items => exact (mapM_congr h).trans mapM_bind_toOption
  | object members => rfl

theorem list?_congr_of_leavesOut {items items' : List Json}
    (h : List.Forall₂ LeavesOutNull items items') :
    list? SortEntry.ofJson? (.array items) = list? SortEntry.ofJson? (.array items') := by
  show items.mapM SortEntry.ofJson? = items'.mapM SortEntry.ofJson?
  induction h with
  | nil => rfl
  | cons hsort _ ih => rw [List.mapM_cons, List.mapM_cons, SortEntry.ofJson?_of_leavesOut hsort, ih]

/-! ## Requests -/

namespace Request

/-- The text of a request, given the texts of its conditions and its sort rules. -/
def textWith (conditions sorts : String) : String :=
  "\x7b\"conditions\":" ++ conditions ++ ",\"sorts\":" ++ sorts ++ "\x7d"

/-- The value of such a text. -/
def jsonWith (conditions sorts : Json) : Json :=
  .record [("conditions", conditions), ("sorts", sorts)]

theorem spelling_append {s t : String} {ts us : List Token} (h : Token.Spelling s.toList ts)
    (h' : Token.Spelling t.toList us) : Token.Spelling (s ++ t).toList (ts ++ us) := by
  rw [String.toList_append]
  exact h.append h'

theorem isDocument_textWith {a b : String} {conditions sorts : Json}
    (ha : IsDocument a conditions) (hb : IsDocument b sorts) :
    IsDocument (textWith a b) (jsonWith conditions sorts) := by
  obtain ⟨ts, hts, hconditions⟩ := ha
  obtain ⟨us, hus, hsorts⟩ := hb
  have hopen : Token.Spelling "\x7b\"conditions\":".toList
      [.openObject, .scalar (.text (some "conditions")), .colon] := spelling_of_chars (by decide)
  have hnext : Token.Spelling ",\"sorts\":".toList
      [.comma, .scalar (.text (some "sorts")), .colon] := spelling_of_chars (by decide)
  have hclose : Token.Spelling "\x7d".toList [.closeObject] := spelling_of_chars (by decide)
  refine ⟨_, ?_, .object (cons_members hconditions (.member hsorts))⟩
  have hall : Token.Spelling (textWith a b).toList _ :=
    spelling_append (spelling_append (spelling_append (spelling_append hopen hts) hnext) hus) hclose
  simpa only [List.append_assoc, List.cons_append, List.nil_append] using hall

theorem entry_jsonWith (conditions sorts : Json) :
    RequestEntry.ofJson? (jsonWith conditions sorts)
      = (list? ConditionEntry.ofJson? conditions).bind fun cs =>
        (list? SortEntry.ofJson? sorts).bind fun ss => some ⟨cs, ss, none⟩ := by
  have hgives : Gives [["conditions"], ["sorts"], ["page"]] (jsonWith conditions sorts)
      [some conditions, some sorts, none] :=
    .object (by simp) (.cons (by simp [isNamed]) (.cons (by simp [isNamed])
      (.cons (by simp [isNamed]) .nil)))
  rw [RequestEntry.ofJson?, Option.bind_eq_bind,
    record_of_gives (fun row row' h => by simp only [Row.optional, h]) hgives]
  rfl

/-- A request with these two parts is resolved part by part. -/
theorem ofText_textWith {a b : String} {conditions sorts : Json} (ha : IsDocument a conditions)
    (hb : IsDocument b sorts) :
    ofText (textWith a b)
      = match list? ConditionEntry.ofJson? conditions, list? SortEntry.ofJson? sorts with
        | some cs, some ss => (RequestEntry.resolve ⟨cs, ss, none⟩).mapError .vocabulary
        | _, _ => .error .malformedRequest := by
  rw [ofText, read?_eq_some_iff.2 (isDocument_textWith ha hb), Option.bind_some, entry_jsonWith]
  cases list? ConditionEntry.ofJson? conditions <;> cases list? SortEntry.ofJson? sorts <;> rfl

/-- **Two ways to read.**  A request with these conditions and sort rules is read just when either
    can be read on its own, and holds the same.  A null direction makes the one difference: the
    sort rule is refused on its own, and in a request the direction is as good as left out. -/
theorem request_iff_direct {a b : String} {conditions sorts : Json} (ha : IsDocument a conditions)
    (hb : IsDocument b sorts) :
    ((∀ sort ∈ sorts.items, ¬ GivesNullDirection sort) → ∀ r : Request,
      ofText (textWith a b) = .ok r
        ↔ list? Condition.ofJson? conditions = some r.conditions
          ∧ list? SortRule.ofJson? sorts = some r.sorts ∧ r.page = none)
    ∧ (∀ sort ∈ sorts.items, GivesNullDirection sort →
      SortRule.ofJson? sort = none ∧ ∃ sort', LeavesOutNull sort sort')
    ∧ ∀ items items', sorts = .array items → List.Forall₂ LeavesOutNull items items' →
      ∀ b', IsDocument b' (.array items') → ofText (textWith a b) = ofText (textWith a b') := by
  refine ⟨fun hnull r => ?_,
    fun sort _ h => ⟨SortRule.ofJson?_of_null h, exists_leavesOut h⟩, ?_⟩
  · rw [ofText_textWith ha hb,
      list?_eq_resolve fun item _ => Condition.ofJson?_eq_resolve item,
      list?_eq_resolve fun item hitem => SortRule.ofJson?_eq_resolve (hnull item hitem)]
    cases list? ConditionEntry.ofJson? conditions with
    | none => simp
    | some cs =>
      cases list? SortEntry.ofJson? sorts with
      | none => simp
      | some ss =>
        obtain ⟨conditions, sorts, page⟩ := r
        simp only [Option.bind_some, RequestEntry.resolve]
        cases cs.mapM ConditionEntry.resolve with
        | error e => exact ⟨nofun, nofun⟩
        | ok conditions' =>
          cases ss.mapM SortEntry.resolve with
          | error e => exact ⟨nofun, nofun⟩
          | ok sorts' =>
            constructor
            · intro h
              cases h
              exact ⟨rfl, rfl, rfl⟩
            · rintro ⟨hconditions, hsorts, rfl⟩
              cases hconditions
              cases hsorts
              rfl
  · rintro items items' rfl h b' hb'
    rw [ofText_textWith ha hb, ofText_textWith ha hb', list?_congr_of_leavesOut h]

/-- A name, an alias, an array and an unknown key are read alike in both ways, and a direction that
    is null like one that is left out. -/
theorem labels_by_name_read_alike :
    ofText (textWith
        (textOf false (.array [.record [("operator", .text "not_in"), ("x", .null),
          ("field", .text "Name")]]))
        (textOf false (.array [.array [.text "Age", .int 3],
          .record [("type", .text "desc"), ("field", .text "Name")]])))
      = .ok { conditions := [{ field := "Name", operator := .noneOf }],
              sorts := [{ field := "Age", order := 3 },
                { field := "Name", direction := .descending }] }
    ∧ ofText (textWith (textOf false (.array []))
        (textOf false (.array [.record [("direction", .null), ("field", .text "Age")]])))
      = ofText (textWith (textOf false (.array []))
        (textOf false (.array [.array [.text "Age"]]))) := by
  constructor
  · refine ((request_iff_direct (isDocument_textOf _ _) (isDocument_textOf _ _)).1
      (fun sort hsort hnull => ?_) _).2 ⟨by decide, by decide, rfl⟩
    have hnone := SortRule.ofJson?_of_null hnull
    simp only [Json.items, List.mem_cons, List.not_mem_nil, or_false] at hsort
    rcases hsort with rfl | rfl <;> exact absurd hnone (by decide)
  · have hnull : Gives SortRule.fields (.record [("direction", .null), ("field", .text "Age")])
        [some (.text "Age"), none, some .null] :=
      .object (by simp) (by simp [SortRule.fields, isNamed])
    have habsent : Gives SortRule.fields (.array [.text "Age"]) [some (.text "Age"), none, none] :=
      .array (by decide)
    exact (request_iff_direct (isDocument_textOf _ _) (isDocument_textOf _ _)).2.2 _ _ rfl
      (.cons (.dropped hnull habsent) .nil) _ (isDocument_textOf _ _)

end Request

end FilterPlan
