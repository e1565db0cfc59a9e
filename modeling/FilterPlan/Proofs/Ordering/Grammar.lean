/-
  The grammar of ordering clauses.

  1. **Entries** — names with dots between them and the word of a sense behind.  In Dynamic LINQ a
     name is a bare word or nothing at all; in PostgreSQL it is any text in double quotes.
  2. **Clauses** — entries with commas between them.  A comma is no lexeme, so what stands between
     two commas is read by itself, while one inside double quotes belongs to its name.
  3. **The crux (`ReadsClause.unique`)** — a text that lexes does so no longer with a comma behind
     it (`lexemesFrom?_comma`).  So there is one way to cut a clause, and one way to read it.
-/
import FilterPlan.Proofs.Expression.Lexeme

namespace FilterPlan

/-! ## Entries -/

/-- An entry of an ordering clause as it is read. -/
structure OrderingEntry where
  /-- The names on the path of the field. -/
  path : List String
  sense : Sense
deriving DecidableEq

namespace Grammar

open Lexeme

/-- The sense that a word stands for. -/
def sense? : Dialect → String → Option Sense
  | .dynamicLinq, "asc" => some .asc
  | .dynamicLinq, "desc" => some .desc
  | .postgres, "ASC" => some .asc
  | .postgres, "DESC" => some .desc
  | _, _ => none

/-- The lexemes of a single name.  In Dynamic LINQ an empty one has none. -/
inductive IsName : Dialect → List Lexeme → String → Prop
  | word (w : String) : IsName .dynamicLinq [.word w] w
  | empty : IsName .dynamicLinq [] ""
  | quoted (s : String) : IsName .postgres [.name s] s

/-- The lexemes of an entry: its names with dots between them, and the word of its sense. -/
inductive IsEntry (d : Dialect) : List Lexeme → OrderingEntry → Prop
  | intro {names : List (List Lexeme)} {path : List String} {w : String} {sense : Sense}
    (nonempty : path ≠ []) (spelt : List.Forall₂ (IsName d) names path)
    (hsense : sense? d w = some sense) :
    IsEntry d ([.dot].intercalate names ++ [.word w]) ⟨path, sense⟩

section

variable {d : Dialect} {ts : List Lexeme}

theorem IsName.unique {name name' : String} (h : IsName d ts name) (h' : IsName d ts name') :
    name = name' := by
  cases h <;> cases h' <;> rfl

/-- There is no dot among the lexemes of a name. -/
theorem IsName.free {name : String} (h : IsName d ts name) : .dot ∉ ts := by
  cases h <;> simp

theorem free_of_names {names : List (List Lexeme)} {path : List String}
    (h : List.Forall₂ (IsName d) names path) : ∀ ts ∈ names, .dot ∉ ts := by
  induction h with
  | nil => exact List.forall_mem_nil _
  | cons hname _ ih => exact List.forall_mem_cons.2 ⟨hname.free, ih⟩

theorem path_unique {names : List (List Lexeme)} {path path' : List String}
    (h : List.Forall₂ (IsName d) names path) (h' : List.Forall₂ (IsName d) names path') :
    path = path' :=
  List.right_unique_forall₂' (fun _ _ _ hname hname' => hname.unique hname') h h'

/-- The names of a path are where its dots are. -/
theorem names_unique {names names' : List (List Lexeme)} {path path' : List String}
    (nonempty : path ≠ []) (nonempty' : path' ≠ []) (h : List.Forall₂ (IsName d) names path)
    (h' : List.Forall₂ (IsName d) names' path')
    (heq : [Lexeme.dot].intercalate names = [.dot].intercalate names') : names = names' := by
  have hne : ∀ {names path}, path ≠ [] → List.Forall₂ (IsName d) names path → names ≠ [] := by
    rintro names path nonempty spelt rfl
    exact nonempty (List.forall₂_nil_left_iff.1 spelt)
  have hcut := List.splitOn_intercalate Lexeme.dot (free_of_names h) (hne nonempty h)
  have hcut' := List.splitOn_intercalate Lexeme.dot (free_of_names h') (hne nonempty' h')
  rw [← hcut, ← hcut', heq]

/-- Lexemes are those of one entry at most. -/
theorem IsEntry.unique {e e' : OrderingEntry} (h : IsEntry d ts e) (h' : IsEntry d ts e') :
    e = e' := by
  obtain ⟨nonempty, spelt, hsense⟩ := h
  generalize hts : [Lexeme.dot].intercalate _ ++ [Lexeme.word _] = ts at h'
  obtain ⟨nonempty', spelt', hsense'⟩ := h'
  -- the last lexeme is the word of the sense, and the others are those of the path
  obtain ⟨hnames, hwords⟩ := List.append_inj' hts rfl
  obtain rfl := names_unique nonempty nonempty' spelt spelt' hnames
  obtain rfl := path_unique spelt spelt'
  simp only [List.cons.injEq, Lexeme.word.injEq, and_true] at hwords
  rw [hwords] at hsense
  rw [Option.some.inj (hsense.symm.trans hsense')]

end

/-! ## Commas -/

/-- The quotes that a lexer is in or has just left. -/
def mark? : Mode → Option Char
  | .quoted mark _ => some mark
  | .unquoted mark _ => some mark
  | _ => none

/-- A lexer stays in the quotes that it is in, or leaves them. -/
theorem mark?_extend? {mode mode' : Mode} {c : Char} (h : mode.extend? c = some mode') :
    mark? mode' = mark? mode := by
  cases mode with
  | between => cases h
  | word spelt | sign spelt | number spelt =>
    rw [Mode.extend?, Option.ite_none_right_eq_some] at h
    rw [← Option.some.inj h.2]
    rfl
  | quoted mark spelt =>
    rw [← Option.some.inj h]
    by_cases hc : c = mark
    · rw [if_pos hc]
      rfl
    · rw [if_neg hc]
      rfl
  | unquoted mark spelt =>
    rw [Mode.extend?, Option.ite_none_right_eq_some] at h
    rw [← Option.some.inj h.2]
    rfl

/-- A comma begins no quotes. -/
theorem mark?_begin? {d : Dialect} {c : Char} {begun : List Lexeme} {mode : Mode}
    (h : begin? d c = some (begun, mode)) : mark? mode ≠ some ',' := by
  unfold begin? at h
  by_cases hword : isWordChar c = true
  · rw [if_pos hword] at h
    cases h
    exact nofun
  · rw [if_neg hword] at h
    by_cases hsign : isSignChar c = true
    · rw [if_pos hsign] at h
      cases h
      exact nofun
    · rw [if_neg hsign] at h
      -- a character of its own; the only quotes among them are the double and the single one
      split at h <;> cases h <;> decide

theorem begin?_comma (d : Dialect) : begin? d ',' = none := by
  have hword : isWordChar ',' = false := by decide +kernel
  cases d <;> simp [begin?, hword, isSignChar]

/-- A comma is taken in by nothing that could end in front of it. -/
theorem extend?_comma {mode : Mode} {done : List Lexeme} (hmark : mark? mode ≠ some ',')
    (h : mode.finish? = some done) : mode.extend? ',' = none := by
  cases mode with
  | between => rfl
  | word spelt =>
    have hword : isWordChar ',' = false := by decide +kernel
    rw [Mode.extend?, hword]
    rfl
  | sign spelt => rfl
  | number digits => rfl
  | quoted mark spelt => cases h
  | unquoted mark spelt =>
    have hc : ',' ≠ mark := fun hc => hmark (by rw [hc]; rfl)
    rw [Mode.extend?, if_neg hc]

/-- **Commas end it.**  A text that lexes does so no longer with a comma behind it. -/
theorem lexemesFrom?_comma {d : Dialect} {mode : Mode} {text : List Char} {ts : List Lexeme}
    (hmark : mark? mode ≠ some ',') (h : lexemesFrom? d mode text = some ts) (rest : List Char) :
    lexemesFrom? d mode (text ++ ',' :: rest) = none := by
  induction text generalizing mode ts with
  | nil =>
    rw [lexemesFrom?] at h
    rw [List.nil_append, lexemesFrom?, extend?_comma hmark h, h, begin?_comma]
    rfl
  | cons c text ih =>
    rw [lexemesFrom?] at h
    rw [List.cons_append, lexemesFrom?]
    cases hextend : mode.extend? c with
    | some mode' =>
      rw [hextend] at h
      have hmark' : mark? mode' ≠ some ',' := by
        rw [mark?_extend? hextend]
        exact hmark
      exact ih hmark' h
    | none =>
      rw [hextend] at h
      obtain ⟨done, hdone, h⟩ := Option.bind_eq_some_iff.1 h
      obtain ⟨⟨begun, mode'⟩, hbegin, h⟩ := Option.bind_eq_some_iff.1 h
      obtain ⟨others, hothers, -⟩ := Option.map_eq_some_iff.1 h
      have hnone := ih (mark?_begin? hbegin) hothers
      simp only [hdone, hbegin, Option.bind_some, hnone, Option.map_none]

/-! ## Clauses -/

/-- The characters are those of a clause with these entries. -/
inductive ReadsClause (d : Dialect) : List Char → List OrderingEntry → Prop
  | last {text ts e} (lexed : lexemesFrom? d .between text = some ts) (entry : IsEntry d ts e) :
    ReadsClause d text [e]
  | more {text ts e rest es} (lexed : lexemesFrom? d .between text = some ts)
    (entry : IsEntry d ts e) (others : ReadsClause d rest es) :
    ReadsClause d (text ++ ',' :: rest) (e :: es)

/-- A space in front of a clause makes no difference. -/
theorem ReadsClause.behind_space {d : Dialect} {text : List Char} {es : List OrderingEntry}
    (h : ReadsClause d text es) : ReadsClause d (' ' :: text) es := by
  have hspace : ∀ cs ts, lexemesFrom? d .between cs = some ts →
      lexemesFrom? d .between (' ' :: cs) = some ts := by
    intro cs ts hcs
    have hclosed := closed_space d cs
    rw [hcs] at hclosed
    exact hclosed
  cases h with
  | last lexed entry => exact .last (hspace _ _ lexed) entry
  | more lexed entry others => exact .more (hspace _ _ lexed) entry others

/-- Texts that lex are cut at the same comma. -/
theorem cut_unique {d : Dialect} {text text' rest rest' : List Char} {ts ts' : List Lexeme}
    (h : lexemesFrom? d .between text = some ts) (h' : lexemesFrom? d .between text' = some ts')
    (heq : text ++ ',' :: rest = text' ++ ',' :: rest') : text = text' ∧ rest = rest' := by
  have hmark : mark? .between ≠ some ',' := nofun
  rcases List.append_eq_append_iff.1 heq with ⟨more, rfl, hrest⟩ | ⟨more, rfl, hrest⟩
  · cases more with
    | nil => exact ⟨by rw [List.append_nil], (List.cons.inj hrest).2⟩
    | cons c more =>
      obtain ⟨rfl, -⟩ := List.cons.inj hrest
      rw [lexemesFrom?_comma hmark h] at h'
      cases h'
  · cases more with
    | nil => exact ⟨by rw [List.append_nil], (List.cons.inj hrest).2.symm⟩
    | cons c more =>
      obtain ⟨rfl, -⟩ := List.cons.inj hrest
      rw [lexemesFrom?_comma hmark h'] at h
      cases h

/-- A text that lexes has no comma behind another one that does. -/
theorem not_lexed_of_comma {d : Dialect} {text text' rest : List Char} {ts ts' : List Lexeme}
    (h : lexemesFrom? d .between text = some ts) (h' : lexemesFrom? d .between text' = some ts') :
    text ≠ text' ++ ',' :: rest := by
  have hmark : mark? .between ≠ some ',' := nofun
  rintro rfl
  rw [lexemesFrom?_comma hmark h'] at h
  cases h

/-- **One reading.**  A clause is read in one way at most. -/
theorem ReadsClause.unique {d : Dialect} {text : List Char} {es es' : List OrderingEntry}
    (h : ReadsClause d text es) (h' : ReadsClause d text es') : es = es' := by
  induction h generalizing es' with
  | @last text ts e lexed entry =>
    generalize hwhole : text = whole at h'
    cases h' with
    | last lexed' entry' =>
      subst hwhole
      obtain rfl := Option.some.inj (lexed.symm.trans lexed')
      rw [entry.unique entry']
    | more lexed' entry' others' => exact absurd hwhole (not_lexed_of_comma lexed lexed')
  | @more text ts e rest es lexed entry others ih =>
    generalize hwhole : text ++ ',' :: rest = whole at h'
    cases h' with
    | last lexed' entry' => exact absurd hwhole.symm (not_lexed_of_comma lexed' lexed)
    | more lexed' entry' others' =>
      obtain ⟨rfl, rfl⟩ := cut_unique lexed lexed' hwhole
      obtain rfl := Option.some.inj (lexed.symm.trans lexed')
      rw [entry.unique entry', ih others']

end Grammar

end FilterPlan
