/-
  What the patterns of text tests match.

  1. **Patterns** — a LIKE pattern is read from left to right: `%` stands for any text, `_` for any
     one character, and the escape character makes the character after it stand for itself.  A
     pattern whose last escape has nothing after it cannot be read.
  2. **Matching** — a text matches a pattern when it falls into stretches, one for each item.
  3. **Escaping** — `likeLiteral` escapes character by character.  It may as well be done in three
     passes over the whole text, if the escape character has the first one
     (`toList_likeLiteral_passes`).
  4. **The crux (`likeItems?_escaped`)** — an escaped text is read as its own characters whatever
     stands behind it, so no escape is left over that could take in a wildcard.
-/
import FilterPlan.Proofs.Template.Text

namespace FilterPlan

namespace Text

/-! ## Patterns -/

/-- What a part of a LIKE pattern stands for. -/
inductive LikeItem
  | anyText
  | anyChar
  | char (c : Char)
deriving DecidableEq

/-- What a character that is not escaped stands for. -/
def LikeItem.ofChar : Char → LikeItem
  | '%' => .anyText
  | '_' => .anyChar
  | c => .char c

/-- The items of a pattern, unless its last escape has nothing to escape. -/
def likeItems? : List Char → Option (List LikeItem)
  | [] => some []
  | ['\\'] => none
  | '\\' :: c :: rest => (likeItems? rest).map (.char c :: ·)
  | c :: rest => (likeItems? rest).map (.ofChar c :: ·)

/-- The pattern ends in an escape that is not escaped itself: what stands before it can be read. -/
def Dangles (pattern : String) : Prop :=
  ∃ before, (likeItems? before).isSome = true ∧ pattern.toList = before ++ ['\\']

theorem likeItems?_cons {c : Char} (h : c ≠ '\\') (rest : List Char) :
    likeItems? (c :: rest) = (likeItems? rest).map (LikeItem.ofChar c :: ·) := by
  rw [likeItems?]
  · exact fun hc _ => h hc
  · exact fun _ _ hc _ => h hc

theorem likeItems?_append_escape (before : List Char) (h : (likeItems? before).isSome = true) :
    likeItems? (before ++ ['\\']) = none := by
  fun_induction likeItems? before with
  | case1 => rfl
  | case2 => cases h
  | case3 c rest ih =>
    rw [Option.isSome_map] at h
    rw [List.cons_append, List.cons_append, likeItems?, ih h, Option.map_none]
  | case4 c rest hlast hescape ih =>
    have hc : c ≠ '\\' := by
      rintro rfl
      cases rest with
      | nil => exact hlast rfl rfl
      | cons d rest => exact hescape d rest rfl rfl
    rw [Option.isSome_map] at h
    rw [List.cons_append, likeItems?_cons hc, ih h, Option.map_none]

theorem exists_append_escape {cs : List Char} (h : likeItems? cs = none) :
    ∃ before, (likeItems? before).isSome = true ∧ cs = before ++ ['\\'] := by
  fun_induction likeItems? cs with
  | case1 => cases h
  | case2 => exact ⟨[], rfl, rfl⟩
  | case3 c rest ih =>
    obtain ⟨before, hbefore, rfl⟩ := ih (Option.map_eq_none_iff.1 h)
    exact ⟨'\\' :: c :: before, by rw [likeItems?, Option.isSome_map, hbefore], rfl⟩
  | case4 c rest hlast hescape ih =>
    obtain ⟨before, hbefore, rfl⟩ := ih (Option.map_eq_none_iff.1 h)
    have hc : c ≠ '\\' := by
      rintro rfl
      cases before with
      | nil => exact hescape '\\' [] rfl rfl
      | cons d before => exact hescape d (before ++ ['\\']) rfl rfl
    exact ⟨c :: before, by rw [likeItems?_cons hc, Option.isSome_map, hbefore], rfl⟩

/-- **Dangling escapes.**  They are the only thing that can be wrong with a pattern. -/
theorem likeItems?_eq_none_iff {pattern : String} :
    likeItems? pattern.toList = none ↔ Dangles pattern := by
  constructor
  · exact exists_append_escape
  · rintro ⟨before, hbefore, hpattern⟩
    rw [hpattern, likeItems?_append_escape before hbefore]

example : likeItems? "a\\%%".toList = some [.char 'a', .char '%', .anyText] := by decide
example : likeItems? "%\\\\\\".toList = none := by decide

/-! ## Matching -/

/-- The characters fall into stretches, each of which is what its item stands for. -/
inductive LikeItem.Match : List LikeItem → List Char → Prop
  | nil : Match [] []
  | anyText {items rest} (skipped : List Char) (h : Match items rest) :
    Match (.anyText :: items) (skipped ++ rest)
  | anyChar {items rest} (c : Char) (h : Match items rest) : Match (.anyChar :: items) (c :: rest)
  | char {items rest} (c : Char) (h : Match items rest) : Match (.char c :: items) (c :: rest)

/-- The text matches the LIKE pattern. -/
def IsLike (text pattern : String) : Prop :=
  ∃ items, likeItems? pattern.toList = some items ∧ LikeItem.Match items text.toList

namespace LikeItem

theorem match_nil {cs : List Char} : Match [] cs ↔ cs = [] := by
  constructor
  · intro h
    cases h
    rfl
  · rintro rfl
    exact .nil

theorem match_anyText {items : List LikeItem} {cs : List Char} :
    Match (.anyText :: items) cs ↔ ∃ skipped rest, skipped ++ rest = cs ∧ Match items rest := by
  constructor
  · intro h
    cases h with
    | anyText skipped h => exact ⟨skipped, _, rfl, h⟩
  · rintro ⟨skipped, rest, rfl, h⟩
    exact .anyText skipped h

/-- A text that is spelled out stands at the beginning, and what comes after it matches the rest. -/
theorem match_chars {items : List LikeItem} {value cs : List Char} :
    Match (value.map .char ++ items) cs ↔ ∃ rest, value ++ rest = cs ∧ Match items rest := by
  induction value generalizing cs with
  | nil => simp
  | cons c value ih =>
    constructor
    · intro h
      cases h with
      | char _ h =>
        obtain ⟨rest, rfl, hrest⟩ := ih.1 h
        exact ⟨rest, rfl, hrest⟩
    · rintro ⟨rest, rfl, hrest⟩
      exact .char c (ih.2 ⟨rest, rfl, hrest⟩)

end LikeItem

/-- A pattern that can be read has no dangling escape, and its items say what matches it. -/
theorem isLike_iff (text : String) {pattern : String} {items : List LikeItem}
    (h : likeItems? pattern.toList = some items) :
    ¬ Dangles pattern ∧ (IsLike text pattern ↔ LikeItem.Match items text.toList) := by
  refine ⟨?_, ?_⟩
  · rw [← likeItems?_eq_none_iff, h]
    exact nofun
  · constructor
    · rintro ⟨items', hitems', hmatch⟩
      obtain rfl := Option.some.inj (h.symm.trans hitems')
      exact hmatch
    · exact fun hmatch => ⟨items, h, hmatch⟩

/-! ## Escaping -/

/-- One pass over a text, which puts an escape in front of each occurrence of a character. -/
def escapeEach (special : Char) (cs : List Char) : List Char :=
  cs.flatMap fun c => if c = special then ['\\', c] else [c]

/-- **Three passes.**  The escape character is escaped first, so that no pass sees the escapes of
    another one. -/
theorem toList_likeLiteral_passes (value : String) :
    (likeLiteral value).toList
      = escapeEach '_' (escapeEach '%' (escapeEach '\\' value.toList)) := by
  have hchar : ∀ c, likeChar c = escapeEach '_' (escapeEach '%' (escapeEach '\\' [c])) := by
    intro c
    by_cases hescape : c = '\\'
    · subst hescape
      rfl
    · by_cases hany : c = '%'
      · subst hany
        rfl
      · by_cases hone : c = '_'
        · subst hone
          rfl
        · simp [likeChar, isLikeSpecial, escapeEach, hescape, hany, hone]
  have happend : ∀ special (cs cs' : List Char),
      escapeEach special (cs ++ cs') = escapeEach special cs ++ escapeEach special cs' :=
    fun _ _ _ => List.flatMap_append
  rw [toList_likeLiteral]
  induction value.toList with
  | nil => rfl
  | cons c cs ih =>
    rw [List.flatMap_cons, ih, hchar, ← happend, ← happend, ← happend, List.singleton_append]

theorem likeItems?_likeChar (c : Char) (rest : List Char) :
    likeItems? (likeChar c ++ rest) = (likeItems? rest).map (.char c :: ·) := by
  rw [likeChar]
  by_cases hspecial : isLikeSpecial c = true
  · rw [if_pos hspecial, List.cons_append, List.singleton_append, likeItems?]
  · simp only [isLikeSpecial, Bool.or_eq_true, beq_iff_eq, not_or] at hspecial
    obtain ⟨⟨hescape, hany⟩, hone⟩ := hspecial
    have hplain : LikeItem.ofChar c = .char c := by
      fun_cases LikeItem.ofChar c with
      | case1 => exact absurd rfl hany
      | case2 => exact absurd rfl hone
      | case3 => rfl
    rw [if_neg (by simp [isLikeSpecial, hescape, hany, hone]), List.singleton_append,
      likeItems?_cons hescape, hplain]

/-- **Escaped texts are read as they are.**  What stands behind one is read as though it stood
    there alone. -/
theorem likeItems?_escaped (value : String) (rest : List Char) :
    likeItems? ((likeLiteral value).toList ++ rest)
      = (likeItems? rest).map (value.toList.map .char ++ ·) := by
  rw [toList_likeLiteral]
  induction value.toList with
  | nil => simp
  | cons c cs ih =>
    rw [List.flatMap_cons, List.append_assoc, likeItems?_likeChar, ih, Option.map_map]
    rfl

end Text

/-! ## Text tests -/

namespace TextTest

/-- The text passes the test: it begins with the value, ends with it, or has it somewhere inside. -/
def Passes (value text : String) : TextTest → Prop
  | .startsWith => value.toList <+: text.toList
  | .endsWith => value.toList <:+ text.toList
  | .contains => value.toList <:+: text.toList

/-- The items of a test's pattern: the characters of the value, and any text on the sides that the
    test leaves open. -/
def items (value : String) : TextTest → List Text.LikeItem
  | .startsWith => value.toList.map .char ++ [.anyText]
  | .endsWith => .anyText :: (value.toList.map .char ++ [])
  | .contains => .anyText :: (value.toList.map .char ++ [.anyText])

theorem likeItems?_likePattern (value : String) (test : TextTest) :
    Text.likeItems? (test.likePattern value).toList = some (test.items value) := by
  have hany : Text.likeItems? ['%'] = some [.anyText] := rfl
  have hopen : ∀ cs, Text.likeItems? ('%' :: cs) = (Text.likeItems? cs).map (.anyText :: ·) :=
    Text.likeItems?_cons (by decide)
  have hescaped := Text.likeItems?_escaped value
  cases test with
  | startsWith =>
    rw [likePattern, String.toList_append]
    show Text.likeItems? ((Text.likeLiteral value).toList ++ ['%']) = _
    rw [hescaped, hany]
    rfl
  | endsWith =>
    rw [likePattern, String.toList_append, ← List.append_nil (Text.likeLiteral value).toList]
    show Text.likeItems? ('%' :: ((Text.likeLiteral value).toList ++ [])) = _
    rw [hopen, hescaped]
    rfl
  | contains =>
    rw [likePattern, String.toList_append, String.toList_append]
    show Text.likeItems? ('%' :: ((Text.likeLiteral value).toList ++ ['%'])) = _
    rw [hopen, hescaped, hany]
    rfl

/-- Characters that are open on a side match what goes on there. -/
theorem match_items_iff (value text : String) (test : TextTest) :
    Text.LikeItem.Match (test.items value) text.toList ↔ test.Passes value text := by
  have hany : ∀ cs, Text.LikeItem.Match [.anyText] cs := by
    intro cs
    rw [← List.append_nil cs]
    exact .anyText cs .nil
  cases test with
  | startsWith =>
    rw [items, Passes, Text.LikeItem.match_chars]
    constructor
    · rintro ⟨rest, htext, -⟩
      exact ⟨rest, htext⟩
    · rintro ⟨rest, htext⟩
      exact ⟨rest, htext, hany rest⟩
  | endsWith =>
    rw [items, Passes, Text.LikeItem.match_anyText]
    constructor
    · rintro ⟨skipped, found, htext, hfound⟩
      obtain ⟨rest, rfl, hrest⟩ := Text.LikeItem.match_chars.1 hfound
      rw [Text.LikeItem.match_nil.1 hrest, List.append_nil] at htext
      exact ⟨skipped, htext⟩
    · rintro ⟨skipped, htext⟩
      exact ⟨skipped, value.toList, htext,
        Text.LikeItem.match_chars.2 ⟨[], List.append_nil _, .nil⟩⟩
  | contains =>
    rw [items, Passes, Text.LikeItem.match_anyText]
    constructor
    · rintro ⟨skipped, found, htext, hfound⟩
      obtain ⟨rest, rfl, -⟩ := Text.LikeItem.match_chars.1 hfound
      exact ⟨skipped, rest, by rw [List.append_assoc, htext]⟩
    · rintro ⟨skipped, rest, htext⟩
      exact ⟨skipped, value.toList ++ rest, by rw [← List.append_assoc, htext],
        Text.LikeItem.match_chars.2 ⟨rest, rfl, hany rest⟩⟩

/-- **Patterns mean what the tests say.**  In PostgreSQL a text test binds one argument, a pattern
    without a dangling escape, and the texts that match it are those that pass the test, whatever
    characters the value has.  An escaped value by itself has no dangling escape either, is what
    three passes of escaping make of the value, and is matched by the value and no other text. -/
theorem isLike_likePattern (field value text : String) :
    (∀ test : TextTest, ∃ pattern,
      Template.bound (test.template field value .postgres) = [pattern] ∧
      ¬ Text.Dangles pattern ∧ (Text.IsLike text pattern ↔ test.Passes value text)) ∧
    (Text.likeLiteral value).toList
      = Text.escapeEach '_' (Text.escapeEach '%' (Text.escapeEach '\\' value.toList)) ∧
    ¬ Text.Dangles (Text.likeLiteral value) ∧
    (Text.IsLike text (Text.likeLiteral value) ↔ text = value) := by
  refine ⟨fun test => ?_, Text.toList_likeLiteral_passes value, ?_⟩
  · obtain ⟨hread, hlike⟩ := Text.isLike_iff text (test.likeItems?_likePattern value)
    exact ⟨test.likePattern value, rfl, hread, hlike.trans (test.match_items_iff value text)⟩
  · have hitems : Text.likeItems? (Text.likeLiteral value).toList
        = some (value.toList.map .char ++ []) := by
      rw [← List.append_nil (Text.likeLiteral value).toList, Text.likeItems?_escaped]
      rfl
    obtain ⟨hread, hlike⟩ := Text.isLike_iff text hitems
    refine ⟨hread, hlike.trans ?_⟩
    rw [Text.LikeItem.match_chars, ← String.toList_inj]
    constructor
    · rintro ⟨rest, htext, hrest⟩
      rw [← htext, Text.LikeItem.match_nil.1 hrest, List.append_nil]
    · intro htext
      exact ⟨[], by rw [List.append_nil, htext], .nil⟩

end TextTest

end FilterPlan
