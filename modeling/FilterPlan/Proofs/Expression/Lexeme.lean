/-
  The lexemes of expressions.

  1. **Lexemes** — bare words, names in double quotes, texts in single quotes, signs, numbered
     placeholders, dots and parentheses.  A quote inside quotes is written twice.  Spaces stand
     between lexemes and are none.
  2. **Lexing** — `lexemes?` runs over the characters from left to right and always takes the
     longest lexeme, so a text has one sequence of lexemes at most.
  3. **Pieces** — `Reads` says which lexemes a piece of text is read as wherever it stands before a
     break; of a `Closed` piece that is known whatever follows.
  4. **The crux (`reads_quoted`, `closed_append_reads`)** — quoted names delimit themselves, and
     pieces that were read apart are read the same side by side.
-/
import Mathlib.Data.List.Forall2
import FilterPlan.Dialect
import FilterPlan.Text.Alphanumeric
import FilterPlan.Text.Numeral

namespace FilterPlan

/-! ## Lexemes -/

/-- The smallest parts of an expression. -/
inductive Lexeme
  /-- A name in double quotes, without them. -/
  | name (s : String)
  /-- A text in single quotes, without them. -/
  | literal (s : String)
  | word (s : String)
  | sign (s : String)
  | placeholder (n : Nat)
  | dot
  | left
  | right
deriving DecidableEq

namespace Lexeme

/-! ## Lexing -/

/-- Holds of the characters of bare words. -/
def isWordChar (c : Char) : Bool := Text.isAlphanumeric c || c == '_'

/-- Holds of the characters of signs. -/
def isSignChar (c : Char) : Bool := c == '=' || c == '!' || c == '<' || c == '>'

/-- What a lexer is in the middle of. -/
inductive Mode
  | between
  | word (spelt : List Char)
  | sign (spelt : List Char)
  | number (digits : List Char)
  /-- Inside quotes of this kind. -/
  | quoted (mark : Char) (spelt : List Char)
  /-- After a quote that ends the text in quotes, unless it is followed by another one. -/
  | unquoted (mark : Char) (spelt : List Char)

namespace Mode

/-- The lexeme that ends here, if one can. -/
def finish? : Mode → Option (List Lexeme)
  | .between => some []
  | .word spelt => some [.word (String.ofList spelt)]
  | .sign spelt => some [.sign (String.ofList spelt)]
  | .number digits => (Text.digits? digits).map fun n => [.placeholder n]
  | .quoted _ _ => none
  | .unquoted mark spelt =>
    some [if mark = '"' then .name (String.ofList spelt) else .literal (String.ofList spelt)]

/-- Takes a character into the lexeme, if it belongs to it. -/
def extend? (c : Char) : Mode → Option Mode
  | .between => none
  | .word spelt => if isWordChar c then some (.word (spelt ++ [c])) else none
  | .sign spelt => if isSignChar c then some (.sign (spelt ++ [c])) else none
  | .number digits => if c.isDigit then some (.number (digits ++ [c])) else none
  | .quoted mark spelt =>
    some (if c = mark then .unquoted mark spelt else .quoted mark (spelt ++ [c]))
  | .unquoted mark spelt => if c = mark then some (.quoted mark (spelt ++ [c])) else none

end Mode

/-- What a character begins that belongs to no lexeme before it: nothing at a space, a whole lexeme
    of its own, or the start of a longer one. -/
def begin? (d : Dialect) (c : Char) : Option (List Lexeme × Mode) :=
  if isWordChar c then some ([], .word [c])
  else if isSignChar c then some ([], .sign [c])
  else
    match d, c with
    | _, ' ' => some ([], .between)
    | _, '.' => some ([.dot], .between)
    | _, '(' => some ([.left], .between)
    | _, ')' => some ([.right], .between)
    | .dynamicLinq, '@' => some ([], .number [])
    | .postgres, '$' => some ([], .number [])
    | .postgres, '"' => some ([], .quoted '"' [])
    | .postgres, '\'' => some ([], .quoted '\'' [])
    | _, _ => none

/-- The lexemes of the characters that are left, from the middle of one on. -/
def lexemesFrom? (d : Dialect) : Mode → List Char → Option (List Lexeme)
  | mode, [] => mode.finish?
  | mode, c :: cs =>
    match mode.extend? c with
    | some mode => lexemesFrom? d mode cs
    | none =>
      mode.finish?.bind fun done =>
        (begin? d c).bind fun (begun, mode) =>
          (lexemesFrom? d mode cs).map fun rest => done ++ begun ++ rest

/-- The lexemes of a text. -/
def lexemes? (d : Dialect) (text : String) : Option (List Lexeme) :=
  lexemesFrom? d .between text.toList

example : lexemes? .dynamicLinq "A.b >= @10" =
    some [.word "A", .dot, .word "b", .sign ">=", .placeholder 10] := by decide +kernel
example : lexemes? .postgres "\"a\"\"\".\"\"<$1" =
    some [.name "a\"", .dot, .name "", .sign "<", .placeholder 1] := by decide +kernel

/-! ## Pieces -/

/-- Holds of what can follow a lexeme without being taken into it. -/
def Breaks (rest : List Char) : Prop :=
  ∀ c ∈ rest.head?, c = ' ' ∨ c = '.' ∨ c = '(' ∨ c = ')'

/-- The characters are read as these lexemes before a break. -/
def Reads (d : Dialect) (cs : List Char) (ls : List Lexeme) : Prop :=
  ∀ rest, Breaks rest → lexemesFrom? d .between (cs ++ rest)
    = (lexemesFrom? d .between rest).map fun more => ls ++ more

/-- The characters are read as these lexemes whatever follows. -/
def Closed (d : Dialect) (cs : List Char) (ls : List Lexeme) : Prop :=
  ∀ rest, lexemesFrom? d .between (cs ++ rest)
    = (lexemesFrom? d .between rest).map fun more => ls ++ more

theorem breaks_nil : Breaks [] := by
  intro c hc
  cases hc

theorem breaks_cons {c : Char} (h : c = ' ' ∨ c = '.' ∨ c = '(' ∨ c = ')') (rest : List Char) :
    Breaks (c :: rest) := by
  intro x hx
  rw [← Option.some.inj hx]
  exact h

section

variable {d : Dialect} {cs us : List Char} {ls ms : List Lexeme}

theorem Closed.reads (h : Closed d cs ls) : Reads d cs ls := fun rest _ => h rest

/-- Two pieces are read one after the other, if what follows each lets it be read. -/
theorem lexemesFrom?_append {rest : List Char}
    (h : lexemesFrom? d .between (cs ++ (us ++ rest))
      = (lexemesFrom? d .between (us ++ rest)).map fun more => ls ++ more)
    (h' : lexemesFrom? d .between (us ++ rest)
      = (lexemesFrom? d .between rest).map fun more => ms ++ more) :
    lexemesFrom? d .between (cs ++ us ++ rest)
      = (lexemesFrom? d .between rest).map fun more => ls ++ ms ++ more := by
  rw [List.append_assoc, h, h', Option.map_map]
  simp only [Function.comp_def, List.append_assoc]

theorem closed_append (h : Closed d cs ls) (h' : Closed d us ms) :
    Closed d (cs ++ us) (ls ++ ms) :=
  fun rest => lexemesFrom?_append (h _) (h' rest)

/-- A piece of any kind after a closed one. -/
theorem closed_append_reads (h : Closed d cs ls) (h' : Reads d us ms) :
    Reads d (cs ++ us) (ls ++ ms) :=
  fun rest hrest => lexemesFrom?_append (h _) (h' rest hrest)

/-- A piece of any kind before one that begins with a break. -/
theorem reads_append (h : Reads d cs ls) (hbreak : ∀ rest, Breaks (us ++ rest))
    (h' : Reads d us ms) : Reads d (cs ++ us) (ls ++ ms) :=
  fun rest hrest => lexemesFrom?_append (h _ (hbreak rest)) (h' rest hrest)

theorem reads_append_closed (h : Reads d cs ls) (hbreak : ∀ rest, Breaks (us ++ rest))
    (h' : Closed d us ms) : Closed d (cs ++ us) (ls ++ ms) :=
  fun rest => lexemesFrom?_append (h _ (hbreak rest)) (h' rest)

/-- Characters that are a single piece have these lexemes and no others. -/
theorem Reads.lexemesFrom?_eq (h : Reads d cs ls) : lexemesFrom? d .between cs = some ls := by
  have hall := h [] breaks_nil
  rw [List.append_nil] at hall
  rw [hall, lexemesFrom?, Mode.finish?, Option.map_some, List.append_nil]

theorem Reads.lexemes?_eq {text : String} (h : Reads d text.toList ls) :
    lexemes? d text = some ls := by
  rw [lexemes?, h.lexemesFrom?_eq]

end

/-! ## Single lexemes -/

/-- The characters that begin other lexemes than words, or none. -/
def marks : List Char := [' ', '.', '(', ')', '=', '!', '<', '>', '@', '$', '"', '\'']

theorem isWordChar_of_mem_marks {c : Char} (h : c ∈ marks) : isWordChar c = false := by
  have hall : (marks.all fun c => !isWordChar c) = true := by decide +kernel
  simpa using List.all_eq_true.1 hall c h

theorem isWordChar_of_break {c : Char} (h : c = ' ' ∨ c = '.' ∨ c = '(' ∨ c = ')') :
    isWordChar c = false := by
  apply isWordChar_of_mem_marks
  rcases h with rfl | rfl | rfl | rfl <;> simp [marks]

theorem isSignChar_of_break {c : Char} (h : c = ' ' ∨ c = '.' ∨ c = '(' ∨ c = ')') :
    isSignChar c = false := by
  rcases h with rfl | rfl | rfl | rfl <;> rfl

/-- A lexeme that ends before a break is followed by what is read from there. -/
theorem lexemesFrom?_of_finish {d : Dialect} {mode : Mode} {done : List Lexeme}
    {rest : List Char} (hfinish : mode.finish? = some done)
    (hend : ∀ c ∈ rest.head?, mode.extend? c = none) :
    lexemesFrom? d mode rest
      = (lexemesFrom? d .between rest).map fun more => done ++ more := by
  have hbetween : Mode.between.finish? = some [] := rfl
  cases rest with
  | nil => rw [lexemesFrom?, lexemesFrom?, hfinish, hbetween, Option.map_some, List.append_nil]
  | cons c rest =>
    have hc : mode.extend? c = none := hend c rfl
    have hc' : Mode.extend? c .between = none := rfl
    -- neither side takes `c` in, so both go on with what it begins
    rw [lexemesFrom?, lexemesFrom?, hc, hc', hfinish, hbetween]
    simp only [Option.bind_some]
    cases begin? d c with
    | none => rfl
    | some begun => simp [Function.comp_def]

/-- Characters that all belong to the lexeme are taken into it. -/
theorem lexemesFrom?_run {d : Dialect} {mode : List Char → Mode} {takes : Char → Prop}
    (hstep : ∀ spelt c, takes c → (mode spelt).extend? c = some (mode (spelt ++ [c])))
    {cs : List Char} (hcs : ∀ c ∈ cs, takes c) (spelt rest : List Char) :
    lexemesFrom? d (mode spelt) (cs ++ rest) = lexemesFrom? d (mode (spelt ++ cs)) rest := by
  induction cs generalizing spelt with
  | nil => rw [List.nil_append, List.append_nil]
  | cons c cs ih =>
    have hc : takes c := hcs c List.mem_cons_self
    have hrest : ∀ x ∈ cs, takes x := fun x hx => hcs x (List.mem_cons_of_mem _ hx)
    rw [List.cons_append, lexemesFrom?, hstep spelt c hc]
    simp only
    rw [ih hrest, List.append_assoc, List.singleton_append]

/-- Between lexemes, what a character begins is all that is read at it. -/
theorem lexemesFrom?_begin {d : Dialect} {c : Char} {begun : List Lexeme} {mode : Mode}
    (hbegin : begin? d c = some (begun, mode)) (rest : List Char) :
    lexemesFrom? d .between (c :: rest)
      = (lexemesFrom? d mode rest).map fun more => begun ++ more := by
  have hbetween : Mode.extend? c .between = none := rfl
  rw [lexemesFrom?, hbetween]
  simp only [Mode.finish?, Option.bind_some, hbegin, List.nil_append]

/-- What is begun by a first character, run on and ended by a break is one lexeme. -/
theorem reads_of_run {d : Dialect} (mode : List Char → Mode) (takes : Char → Prop) {c : Char}
    {start cs : List Char} {done : List Lexeme} (hbegin : begin? d c = some ([], mode start))
    (hstep : ∀ spelt c, takes c → (mode spelt).extend? c = some (mode (spelt ++ [c])))
    (hcs : ∀ c ∈ cs, takes c) (hfinish : (mode (start ++ cs)).finish? = some done)
    (hend : ∀ c, (c = ' ' ∨ c = '.' ∨ c = '(' ∨ c = ')') →
      (mode (start ++ cs)).extend? c = none) : Reads d (c :: cs) done := by
  intro rest hrest
  -- begun by `c`, run to the end of `cs`, ended by the break in front of `rest`
  rw [List.cons_append, lexemesFrom?_begin hbegin, lexemesFrom?_run hstep hcs,
    lexemesFrom?_of_finish hfinish fun x hx => hend x (hrest x hx), Option.map_map]
  rfl

theorem reads_word (d : Dialect) {word : String} (nonempty : word ≠ "")
    (hword : word.toList.all isWordChar = true) : Reads d word.toList [.word word] := by
  rw [List.all_eq_true] at hword
  obtain ⟨c, cs, hcs⟩ := List.exists_cons_of_ne_nil fun h => nonempty (String.toList_eq_nil_iff.1 h)
  rw [hcs] at hword ⊢
  have hdone : String.ofList ([c] ++ cs) = word := by
    rw [List.singleton_append, ← hcs, String.ofList_toList]
  apply reads_of_run Mode.word (fun c => isWordChar c = true)
  · simp only [begin?, if_pos (hword c List.mem_cons_self)]
    rfl
  · intro spelt x hx
    rw [Mode.extend?, if_pos hx]
  · exact fun x hx => hword x (List.mem_cons_of_mem _ hx)
  · rw [Mode.finish?, hdone]
  · intro x hx
    rw [Mode.extend?, isWordChar_of_break hx]
    rfl

theorem reads_sign (d : Dialect) {sign : String} (nonempty : sign ≠ "")
    (hsign : sign.toList.all isSignChar = true) : Reads d sign.toList [.sign sign] := by
  rw [List.all_eq_true] at hsign
  obtain ⟨c, cs, hcs⟩ := List.exists_cons_of_ne_nil fun h => nonempty (String.toList_eq_nil_iff.1 h)
  rw [hcs] at hsign ⊢
  have hdone : String.ofList ([c] ++ cs) = sign := by
    rw [List.singleton_append, ← hcs, String.ofList_toList]
  have hc : isSignChar c = true := hsign c List.mem_cons_self
  have hword : isWordChar c = false := by
    apply isWordChar_of_mem_marks
    simp only [isSignChar, Bool.or_eq_true, beq_iff_eq] at hc
    rcases hc with ((rfl | rfl) | rfl) | rfl <;> simp [marks]
  apply reads_of_run Mode.sign (fun c => isSignChar c = true)
  · simp only [begin?, hword, if_pos hc]
    rfl
  · intro spelt x hx
    rw [Mode.extend?, if_pos hx]
  · exact fun x hx => hsign x (List.mem_cons_of_mem _ hx)
  · rw [Mode.finish?, hdone]
  · intro x hx
    rw [Mode.extend?, isSignChar_of_break hx]
    rfl

/-- A space is read as nothing; a dot and a parenthesis are lexemes by themselves. -/
theorem closed_singleton {d : Dialect} {c : Char} {ls : List Lexeme}
    (hbegin : begin? d c = some (ls, .between)) : Closed d [c] ls :=
  fun rest => lexemesFrom?_begin hbegin rest

theorem closed_nil (d : Dialect) : Closed d [] [] := by
  intro rest
  rw [List.nil_append]
  exact (congrFun Option.map_id _).symm

theorem closed_space (d : Dialect) : Closed d [' '] [] := by
  apply closed_singleton
  simp only [begin?, isWordChar_of_mem_marks (c := ' ') (by simp [marks])]
  rfl

theorem closed_dot (d : Dialect) : Closed d ['.'] [.dot] := by
  apply closed_singleton
  simp only [begin?, isWordChar_of_mem_marks (c := '.') (by simp [marks])]
  rfl

theorem closed_left (d : Dialect) : Closed d ['('] [.left] := by
  apply closed_singleton
  simp only [begin?, isWordChar_of_mem_marks (c := '(') (by simp [marks])]
  rfl

theorem closed_right (d : Dialect) : Closed d [')'] [.right] := by
  apply closed_singleton
  simp only [begin?, isWordChar_of_mem_marks (c := ')') (by simp [marks])]
  rfl

/-- A piece with a space behind it can stand before anything. -/
theorem Reads.before_space {d : Dialect} {cs : List Char} {ls : List Lexeme} (h : Reads d cs ls) :
    Closed d (cs ++ [' ']) ls := by
  have hbreak : ∀ rest, Breaks ([' '] ++ rest) := fun rest => breaks_cons (.inl rfl) rest
  have hend : Closed d (cs ++ [' ']) (ls ++ []) := reads_append_closed h hbreak (closed_space d)
  rw [List.append_nil] at hend
  exact hend

/-- A piece with a space on either side can stand anywhere. -/
theorem Reads.spaced {d : Dialect} {cs : List Char} {ls : List Lexeme} (h : Reads d cs ls) :
    Closed d (' ' :: (cs ++ [' '])) ls := by
  have hall : Closed d ([' '] ++ (cs ++ [' '])) ([] ++ ls) :=
    closed_append (closed_space d) h.before_space
  rw [List.nil_append] at hall
  exact hall

/-- Pieces with dots between them are read with dots between them. -/
theorem reads_dotted {d : Dialect} {pieces : List (List Char)} {lexed : List (List Lexeme)}
    (h : List.Forall₂ (Reads d) pieces lexed) :
    Reads d (['.'].intercalate pieces) ([.dot].intercalate lexed) := by
  induction h with
  | nil => exact (closed_nil d).reads
  | @cons piece ls pieces lexed hpiece hrest ih =>
    cases hrest with
    | nil =>
      rw [List.intercalate_singleton, List.intercalate_singleton]
      exact hpiece
    | cons hnext hrest =>
      rw [List.intercalate_cons_cons, List.intercalate_cons_cons, List.append_assoc,
        List.append_assoc]
      -- the dot is a break, so the piece ends in front of it
      apply reads_append hpiece
      · exact fun rest => breaks_cons (.inr (.inl rfl)) _
      · exact closed_append_reads (closed_dot d) ih

/-! ## Texts in quotes -/

/-- Inside double quotes, what was doubled is taken back one by one. -/
theorem lexemesFrom?_quoted (d : Dialect) (cs spelt rest : List Char) :
    lexemesFrom? d (.quoted '"' spelt) (Text.doubleQuotes cs ++ rest)
      = lexemesFrom? d (.quoted '"' (spelt ++ cs)) rest := by
  induction cs generalizing spelt with
  | nil => rw [Text.doubleQuotes, List.flatMap_nil, List.nil_append, List.append_nil]
  | cons c cs ih =>
    have hcons : spelt ++ c :: cs = spelt ++ [c] ++ cs := by rw [List.append_assoc]; rfl
    rw [hcons, ← ih (spelt ++ [c])]
    by_cases hc : c = '"'
    · -- the first of the two quotes leaves the name, the second one enters it again
      subst hc
      rfl
    · have hdouble : Text.doubleQuotes (c :: cs) = c :: Text.doubleQuotes cs := by
        rw [Text.doubleQuotes, List.flatMap_cons, if_neg hc]
        rfl
      rw [hdouble, List.cons_append, lexemesFrom?, Mode.extend?, if_neg hc]

/-- A closing quote before a break ends the text in quotes. -/
theorem lexemesFrom?_unquoted {d : Dialect} {mark : Char} {spelt rest : List Char}
    (hmark : mark ∉ [' ', '.', '(', ')']) (hrest : Breaks rest) {done : List Lexeme}
    (hfinish : (Mode.unquoted mark spelt).finish? = some done) :
    lexemesFrom? d (.quoted mark spelt) (mark :: rest)
      = (lexemesFrom? d .between rest).map fun more => done ++ more := by
  have hend : ∀ c ∈ rest.head?, Mode.extend? c (.unquoted mark spelt) = none := by
    intro c hc
    have hne : c ≠ mark := by
      rintro rfl
      apply hmark
      rcases hrest c hc with rfl | rfl | rfl | rfl <;> simp
    rw [Mode.extend?, if_neg hne]
  rw [lexemesFrom?, Mode.extend?, if_pos rfl]
  exact lexemesFrom?_of_finish hfinish hend

/-- **Quoted names delimit themselves.**  Whatever a name holds, quotes, dots and parentheses
    included, between double quotes it is one lexeme and reads back as it was. -/
theorem reads_quoted (name : String) : Reads .postgres (Text.quoted name).toList [.name name] := by
  intro rest hrest
  have hbegin : begin? .postgres '"' = some ([], .quoted '"' []) := by
    simp only [begin?, isWordChar_of_mem_marks (c := '"') (by simp [marks])]
    rfl
  have hfinish : (Mode.unquoted '"' name.toList).finish? = some [.name name] := by
    rw [Mode.finish?, if_pos rfl, String.ofList_toList]
  rw [Text.quoted, String.toList_ofList, List.append_assoc, List.cons_append,
    lexemesFrom?_begin hbegin, lexemesFrom?_quoted, List.nil_append, List.singleton_append,
    lexemesFrom?_unquoted (by decide) hrest hfinish, Option.map_map]
  rfl

/-- The text of a single character in single quotes. -/
theorem reads_literal {c : Char} (hc : c ≠ '\'') :
    Reads .postgres ['\'', c, '\''] [.literal (String.ofList [c])] := by
  intro rest hrest
  have hbegin : begin? .postgres '\'' = some ([], .quoted '\'' []) := by
    simp only [begin?, isWordChar_of_mem_marks (c := '\'') (by simp [marks])]
    rfl
  have hfinish : (Mode.unquoted '\'' [c]).finish? = some [.literal (String.ofList [c])] := rfl
  have hextend : Mode.extend? c (.quoted '\'' []) = some (.quoted '\'' [c]) := by
    rw [Mode.extend?, if_neg hc, List.nil_append]
  rw [List.cons_append, lexemesFrom?_begin hbegin, List.cons_append, lexemesFrom?, hextend]
  simp only [List.cons_append, List.nil_append]
  rw [lexemesFrom?_unquoted (by decide) hrest hfinish, Option.map_map]
  rfl

end Lexeme

end FilterPlan
