/-
  What is written for a value is a document of that value.

  1. **Scalars** — numerals have no leading zero, every character stands for itself or is escaped
     (`number_chars`, `quoted_escaped`), and the two scalars that keep less than their text said are
     written as such.
  2. **Values** — the tokens of a value derive it (`derives_tokens`).  The writer goes through a
     list from its head, the grammar from its end: `cons_items` and `cons_members` turn one into
     the other.
  3. **The crux (`isDocument_textOf`)** — both layouts spell these same tokens, so both are
     documents of the value, and `read?_textOf` reads them back.
  4. **Lines** — a line end within a string is escaped, so it is the layout alone that ends lines
     (`newline_mem_textOf_iff`).
-/
import FilterPlan.Json.Writer
import FilterPlan.Proofs.Json.Reading

namespace FilterPlan

/-! ## Scalars -/

namespace Number

theorem head_toDigits {n : Nat} (hn : n ≠ 0) : ∀ c ∈ (Nat.toDigits 10 n).head?, c ≠ '0' := by
  induction n using Nat.strongRecOn with
  | ind n ih =>
    rcases Nat.lt_or_ge n 10 with hlt | hge
    · intro c hc
      rw [Nat.toDigits_of_lt_base hlt] at hc
      obtain rfl := Option.some.inj hc
      intro hzero
      have hvalue := congrArg Char.toNat hzero
      rw [Nat.toNat_digitChar_of_lt_ten hlt] at hvalue
      exact hn (Nat.add_left_cancel hvalue)
    · rw [Nat.toDigits_of_base_le (by decide) hge, List.head?_append_of_ne_nil _ Nat.toDigits_ne_nil]
      exact ih (n / 10) (by omega) (by omega)

/-- The numeral of a number has no leading zero. -/
theorem whole_toDigits (n : Nat) : Whole (Nat.toDigits 10 n) := by
  by_cases hn : n = 0
  · rw [hn]
    exact .zero
  · have hdigits : Text.isDigits (Nat.toDigits 10 n) = true :=
      isDigits_iff.2 ⟨Nat.toDigits_ne_nil, fun c hc =>
        Nat.isDigit_of_mem_toDigits (by decide) (by decide) hc⟩
    obtain ⟨c, cs, hcs⟩ := List.exists_cons_of_ne_nil (@Nat.toDigits_ne_nil n 10)
    have hhead := head_toDigits hn
    rw [hcs] at hdigits hhead ⊢
    exact .digits (hhead c rfl) hdigits

theorem magnitude_toDigits (n : Nat) : Magnitude (Nat.toDigits 10 n) (some n) := by
  have h := Magnitude.whole (whole_toDigits n)
  rwa [Nat.ofDigitChars_toDigits (by decide) (by decide)] at h

end Number

namespace Token

theorem number_chars (n : Int) : Number (Scalar.int n).chars (.int n) := by
  cases n with
  | ofNat n => exact .natural (Number.magnitude_toDigits n)
  | negSucc n => exact .negative (Number.magnitude_toDigits (n + 1)) (Nat.succ_ne_zero n)

theorem hexDigit?_digitChar : ∀ n < 16, hexDigit? (Nat.digitChar n) = some n := by decide

/-- A character is written so that it is read again. -/
theorem quoted_escapeChar (c : Char) : Quoted (escapeChar c) [c.toNat] := by
  fun_cases escapeChar c
  case case8 hcontrol =>
    have hdigits := ((HexDigits.nil.snoc (hexDigit?_digitChar 0 (by decide))).snoc
      (hexDigit?_digitChar 0 (by decide))).snoc (hexDigit?_digitChar (c.toNat / 16) (by omega))
    have hunit := Quoted.unit (hdigits.snoc (hexDigit?_digitChar (c.toNat % 16) (by omega))) rfl .nil
    have hvalue : c.toNat / 16 * 16 + c.toNat % 16 = c.toNat := Nat.div_add_mod' c.toNat 16
    have hzero : Nat.digitChar 0 = '0' := rfl
    simpa [hvalue, hzero] using hunit
  case case9 hquote hslash _ _ _ _ _ hcontrol =>
    exact .plain hquote hslash (Nat.le_of_not_lt hcontrol) .nil
  all_goals
    subst c
    exact .escape rfl .nil

theorem quoted_escaped (cs : List Char) : Quoted (cs.flatMap escapeChar) (cs.map Char.toNat) := by
  induction cs with
  | nil => exact .nil
  | cons c cs ih => exact (quoted_escapeChar c).append ih

theorem encodes_points (cs : List Char) : Encodes (cs.map Char.toNat) cs := by
  induction cs with
  | nil => exact .nil
  | cons c cs ih => exact .single c ih

/-- Every token is spelt as it is written. -/
theorem spells_chars (t : Token) : Spells t.chars t := by
  cases t with
  | scalar s =>
    cases s with
    | null => exact .word .null
    | bool b => cases b with
      | true => exact .word (.bool true)
      | false => exact .word (.bool false)
    | int n => exact .word (.number (number_chars n))
    | real =>
      have hfraction : Number.Fraction ['.', '0'] := .present rfl
      exact .word (.number (.real (.broken .zero hfraction .absent (by simp))))
    | text s =>
      cases s with
      | some s => exact .string (quoted_escaped s.toList) (.text (encodes_points s.toList))
      | none =>
        have hdigits : HexDigits "d800".toList 0xD800 :=
          @HexDigits.snoc _ _ '0' 0 (@HexDigits.snoc _ _ '0' 0 (@HexDigits.snoc _ _ '8' 8
            (@HexDigits.snoc _ _ 'd' 13 .nil rfl) rfl) rfl) rfl
        have hbody := Quoted.unit hdigits rfl .nil
        exact .string hbody (hbody.content_iff.2 rfl)
  | openArray | closeArray | openObject | closeObject | colon | comma => exact .mark rfl

end Token

namespace Json

/-! ## Values -/

/-- Induction over values: an array or an object may rely on all that it holds. -/
@[elab_as_elim]
theorem induction {motive : Json → Prop} (scalar : ∀ s, motive (.scalar s))
    (array : ∀ items, (∀ item ∈ items, motive item) → motive (.array items))
    (object : ∀ members, (∀ m ∈ members, motive m.2) → motive (.object members))
    (j : Json) : motive j :=
  @Json.rec motive (fun items => ∀ item ∈ items, motive item)
    (fun members => ∀ m ∈ members, motive m.2) (fun m => motive m.2) scalar array object
    (List.forall_mem_nil _) (fun _ _ h hrest => List.forall_mem_cons.2 ⟨h, hrest⟩)
    (List.forall_mem_nil _) (fun _ _ h hrest => List.forall_mem_cons.2 ⟨h, hrest⟩)
    (fun _ _ h => h) j

/-- One more item in front. -/
theorem cons_items {ts us : List Token} {j : Json} {js : List Json} (h : Derives ts (.value j))
    (hrest : Derives us (.items js)) : Derives (ts ++ .comma :: us) (.items (j :: js)) := by
  generalize hp : Phrase.items js = p at hrest
  induction hrest generalizing js with
  | item h' =>
    cases hp
    exact .moreItems (.item h) h'
  | moreItems hitems hitem ih _ =>
    cases hp
    have hmore := Derives.moreItems (ih rfl) hitem
    rwa [List.append_assoc, List.cons_append] at hmore
  | scalar | emptyArray | emptyObject | array | object | member | moreMembers => cases hp

/-- One more member in front. -/
theorem cons_members {ts us : List Token} {key : Option String} {j : Json}
    {ms : List (Option String × Json)} (h : Derives ts (.value j))
    (hrest : Derives us (.members ms)) :
    Derives (.scalar (.text key) :: .colon :: ts ++ .comma :: us) (.members ((key, j) :: ms)) := by
  generalize hp : Phrase.members ms = p at hrest
  induction hrest generalizing ms with
  | member h' =>
    cases hp
    exact .moreMembers (.member h) h'
  | @moreMembers _ _ _ key' _ hmembers hmember ih _ =>
    cases hp
    have hmore := @Derives.moreMembers _ _ _ key' _ (ih rfl) hmember
    rwa [List.append_assoc, List.cons_append] at hmore
  | scalar | emptyArray | emptyObject | array | object | item | moreItems => cases hp

theorem derives_itemTokens {items : List Json}
    (h : ∀ item ∈ items, Derives item.tokens (.value item)) (hne : items ≠ []) :
    Derives (itemTokens items) (.items items) := by
  induction items with
  | nil => exact absurd rfl hne
  | cons item rest ih =>
    obtain ⟨hitem, hrest⟩ := List.forall_mem_cons.1 h
    cases rest with
    | nil => exact .item hitem
    | cons next rest => exact cons_items hitem (ih hrest (List.cons_ne_nil next rest))

theorem derives_memberTokens {members : List (Option String × Json)}
    (h : ∀ m ∈ members, Derives m.2.tokens (.value m.2)) (hne : members ≠ []) :
    Derives (memberTokens members) (.members members) := by
  induction members with
  | nil => exact absurd rfl hne
  | cons m rest ih =>
    obtain ⟨hvalue, hrest⟩ := List.forall_mem_cons.1 h
    cases rest with
    | nil => exact .member hvalue
    | cons next rest => exact cons_members hvalue (ih hrest (List.cons_ne_nil next rest))

/-- The tokens of a value derive it. -/
theorem derives_tokens (j : Json) : Derives j.tokens (.value j) := by
  induction j using Json.induction with
  | scalar s => exact .scalar s
  | array items ih =>
    cases items with
    | nil => exact .emptyArray
    | cons item rest => exact .array (derives_itemTokens ih (List.cons_ne_nil item rest))
  | object members ih =>
    cases members with
    | nil => exact .emptyObject
    | cons m rest => exact .object (derives_memberTokens ih (List.cons_ne_nil m rest))

/-! ## Layouts -/

theorem spelling_chars (ts : List Token) : Token.Spelling (ts.flatMap Token.chars) ts := by
  induction ts with
  | nil => exact .nil
  | cons t ts ih => exact .token (Token.spells_chars t) ih

theorem spelling_newline (depth : Nat) : Token.Spelling (newline depth) [] := by
  have hspaces : ∀ n, Token.Spelling (List.replicate n ' ') [] := by
    intro n
    induction n with
    | zero => exact .nil
    | succ n ih => exact .space rfl ih
  exact .space rfl (hspaces (2 * depth))

/-- Characters that tokens are written as. -/
theorem spelling_of_chars {cs : List Char} {ts : List Token} (h : ts.flatMap Token.chars = cs) :
    Token.Spelling cs ts := by
  rw [← h]
  exact spelling_chars ts

/-- A token on its own. -/
theorem spelling_token (t : Token) : Token.Spelling t.chars [t] :=
  spelling_of_chars (List.flatMap_singleton Token.chars t)

theorem spelling_indentedItems {items : List Json} {depth : Nat}
    (h : ∀ item ∈ items, Token.Spelling (item.indented depth) item.tokens) :
    Token.Spelling (indentedItems depth items) (itemTokens items) := by
  induction items with
  | nil => exact .nil
  | cons item rest ih =>
    obtain ⟨hitem, hrest⟩ := List.forall_mem_cons.1 h
    have hline := (spelling_newline depth).append hitem
    cases rest with
    | nil => simpa [indentedItems, itemTokens] using hline
    | cons next rest =>
      have hall := (hline.append (spelling_token .comma)).append (ih hrest)
      simpa [indentedItems, itemTokens, Token.chars] using hall

theorem spelling_indentedMembers {members : List (Option String × Json)} {depth : Nat}
    (h : ∀ m ∈ members, Token.Spelling (m.2.indented depth) m.2.tokens) :
    Token.Spelling (indentedMembers depth members) (memberTokens members) := by
  induction members with
  | nil => exact .nil
  | cons m rest ih =>
    obtain ⟨hvalue, hrest⟩ := List.forall_mem_cons.1 h
    have hkey := (spelling_newline depth).append (spelling_token (.scalar (.text m.1)))
    have hcolon : Token.Spelling [':', ' '] [.colon] := .token (.mark rfl) (.space rfl .nil)
    have hline := (hkey.append hcolon).append hvalue
    cases rest with
    | nil => simpa [indentedMembers, memberTokens, Token.chars] using hline
    | cons next rest =>
      have hall := (hline.append (spelling_token .comma)).append (ih hrest)
      simpa [indentedMembers, memberTokens, Token.chars] using hall

/-- A value that begins on a line of any depth spells its tokens. -/
theorem spelling_indented (j : Json) (depth : Nat) :
    Token.Spelling (j.indented depth) j.tokens := by
  induction j using Json.induction generalizing depth with
  | scalar s => exact spelling_token (.scalar s)
  | array items ih =>
    cases items with
    | nil => exact spelling_chars [.openArray, .closeArray]
    | cons item rest =>
      have hlines := spelling_indentedItems fun j hj => ih j hj (depth + 1)
      have hall := (((spelling_token .openArray).append hlines).append
        (spelling_newline depth)).append (spelling_token .closeArray)
      simpa [indented, tokens, Token.chars] using hall
  | object members ih =>
    cases members with
    | nil => exact spelling_chars [.openObject, .closeObject]
    | cons m rest =>
      have hlines := spelling_indentedMembers fun m hm => ih m hm (depth + 1)
      have hall := (((spelling_token .openObject).append hlines).append
        (spelling_newline depth)).append (spelling_token .closeObject)
      simpa [indented, tokens, Token.chars] using hall

/-- The value as a text, with a line for each part or without white space. -/
def textOf (lines : Bool) (j : Json) : String := if lines then j.writeIndented else j.write

/-- **Writing.**  Either layout is a document of the value. -/
theorem isDocument_textOf (lines : Bool) (j : Json) : IsDocument (textOf lines j) j := by
  refine ⟨j.tokens, ?_, derives_tokens j⟩
  cases lines with
  | true =>
    show Token.Spelling (String.ofList (j.indented 0)).toList j.tokens
    rw [String.toList_ofList]
    exact spelling_indented j 0
  | false =>
    show Token.Spelling (String.ofList (j.tokens.flatMap Token.chars)).toList j.tokens
    rw [String.toList_ofList]
    exact spelling_chars j.tokens

theorem read?_textOf (lines : Bool) (j : Json) : read? (textOf lines j) = some j :=
  read?_eq_some_iff.2 (isDocument_textOf lines j)

/-! ## Lines -/

theorem newline_not_mem_toDigits (n : Nat) : '\n' ∉ Nat.toDigits 10 n := by
  intro h
  have hdigit : '\n'.isDigit = true := Nat.isDigit_of_mem_toDigits (by decide) (by decide) h
  exact absurd hdigit (by decide)

theorem newline_not_mem_escapeChar (c : Char) : '\n' ∉ escapeChar c := by
  have hdigit : ∀ n < 16, '\n' ≠ Nat.digitChar n := by decide
  fun_cases escapeChar c
  case case8 hcontrol => simp [hdigit (c.toNat / 16) (by omega), hdigit (c.toNat % 16) (by omega)]
  case case9 hline _ _ _ => simpa using Ne.symm hline
  all_goals decide

/-- No token has a line end in it: those of a string are escaped. -/
theorem newline_not_mem_chars (t : Token) : '\n' ∉ t.chars := by
  cases t with
  | scalar s =>
    cases s with
    | null | real => decide
    | bool b => cases b <;> decide
    | int n =>
      cases n with
      | ofNat n => exact newline_not_mem_toDigits n
      | negSucc n =>
        exact List.not_mem_cons_of_ne_of_not_mem (by decide) (newline_not_mem_toDigits (n + 1))
    | text s =>
      cases s with
      | none => decide
      | some s =>
        show '\n' ∉ '"' :: s.toList.flatMap escapeChar ++ ['"']
        simp [newline_not_mem_escapeChar]
  | openArray | closeArray | openObject | closeObject | colon | comma => decide

/-- **Lines.**  A record with members is on one line or on several, as is asked for. -/
theorem newline_mem_textOf_iff {lines : Bool} {m : Option String × Json}
    {ms : List (Option String × Json)} :
    '\n' ∈ (textOf lines (.object (m :: ms))).toList ↔ lines = true := by
  cases lines with
  | true => simp [textOf, writeIndented, indented, newline]
  | false =>
    have hnone : '\n' ∉ (Json.object (m :: ms)).tokens.flatMap Token.chars := by
      rw [List.mem_flatMap]
      rintro ⟨t, -, ht⟩
      exact newline_not_mem_chars t ht
    simp [textOf, write, hnone]

end Json

end FilterPlan
