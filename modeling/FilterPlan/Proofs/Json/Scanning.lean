/-
  Texts are scanned into the tokens that they spell.

  1. **Soundness** — `Scanned` says what a scanner has behind it: tokens and white space, and the
     beginning of the token that it is in.  A step keeps that up, so tokens that are found are
     spelt (`spelling_of_tokens?`).
  2. **Completeness** — a word ends where no word goes on.  Among tokens of which no two scalars
     stand side by side that is always so, and then they are found (`tokens?_of_spelling`).
-/
import Mathlib.Data.List.Chain
import FilterPlan.Proofs.Json.Scalars

namespace FilterPlan

namespace Token

theorem Spelling.append {cs ds : List Char} {ts us : List Token} (h : Spelling cs ts)
    (h' : Spelling ds us) : Spelling (cs ++ ds) (ts ++ us) := by
  induction h with
  | nil => exact h'
  | space hc h ih => exact .space hc ih
  | token ht h ih =>
    rw [List.append_assoc]
    exact .token ht ih

/-- One more token at the end. -/
theorem Spelling.snoc {cs word : List Char} {ts : List Token} {t : Token} (h : Spelling cs ts)
    (ht : Spells word t) : Spelling (cs ++ word) (ts ++ [t]) := by
  have hword : Spelling (word ++ []) [t] := .token ht .nil
  rw [List.append_nil] at hword
  exact h.append hword

theorem Quoted.append {body body' : List Char} {points points' : List Nat} (h : Quoted body points)
    (h' : Quoted body' points') : Quoted (body ++ body') (points ++ points') := by
  induction h with
  | nil => exact h'
  | plain hquote hslash hcontrol h ih => exact .plain hquote hslash hcontrol ih
  | escape hn h ih => exact .escape hn ih
  | unit hdigits hlength h ih =>
    have hall := Quoted.unit hdigits hlength ih
    simpa using hall

namespace Scanner

/-- The scanner after some characters. -/
def run? (s : Scanner) (cs : List Char) : Option Scanner := cs.foldlM step? s

theorem run?_cons (s : Scanner) (c : Char) (cs : List Char) :
    s.run? (c :: cs) = (s.step? c).bind fun next => next.run? cs := rfl

theorem run?_append (s : Scanner) (cs ds : List Char) :
    s.run? (cs ++ ds) = (s.run? cs).bind fun next => next.run? ds :=
  List.foldlM_append

/-! ## Soundness -/

/-- The scanner has these characters behind it. -/
inductive Scanned : List Char → Scanner → Prop
  | between {cs tokens} (h : Spelling cs tokens.reverse) : Scanned cs ⟨.between, tokens⟩
  | word {cs tokens spelt} (h : Spelling cs tokens.reverse) :
    Scanned (cs ++ spelt.reverse) ⟨.word spelt, tokens⟩
  | quoted {cs tokens body points} (h : Spelling cs tokens.reverse)
    (hbody : Quoted body points.reverse) :
    Scanned (cs ++ '"' :: body) ⟨.quoted points, tokens⟩
  | escaped {cs tokens body points} (h : Spelling cs tokens.reverse)
    (hbody : Quoted body points.reverse) :
    Scanned (cs ++ '"' :: (body ++ ['\\'])) ⟨.escaped points, tokens⟩
  | hex {cs tokens body points digits due value} (h : Spelling cs tokens.reverse)
    (hbody : Quoted body points.reverse) (hdigits : HexDigits digits value)
    (hlength : digits.length + due = 3) :
    Scanned (cs ++ '"' :: (body ++ '\\' :: 'u' :: digits)) ⟨.hex points due value, tokens⟩

theorem scanned_open {cs : List Char} {tokens : List Token} {c : Char} {s : Scanner}
    (h : Spelling cs tokens.reverse) (hopen : open? tokens c = some s) : Scanned (cs ++ [c]) s := by
  simp only [open?] at hopen
  split at hopen
  · next hc =>
    obtain rfl := Option.some.inj hopen
    have hspace := h.append (.space hc .nil)
    rw [List.append_nil] at hspace
    exact .between hspace
  · split at hopen
    · next hc =>
      obtain rfl := Option.some.inj hopen
      rw [hc]
      exact .quoted h .nil
    · split at hopen
      · obtain rfl := Option.some.inj hopen
        exact @Scanned.word _ _ [c] h
      · obtain ⟨t, ht, rfl⟩ := Option.map_eq_some_iff.1 hopen
        refine .between ?_
        rw [List.reverse_cons]
        exact h.snoc (.mark ht)

theorem spelling_endWord {cs spelt : List Char} {tokens tokens' : List Token}
    (h : Spelling cs tokens.reverse) (hend : endWord? spelt tokens = some tokens') :
    Spelling (cs ++ spelt.reverse) tokens'.reverse := by
  obtain ⟨s, hs, rfl⟩ := Option.map_eq_some_iff.1 hend
  rw [List.reverse_cons]
  exact h.snoc (.word (word?_eq_some_iff.1 hs))

section

variable {cs body : List Char} {tokens : List Token} {points : List Nat} {c : Char} {s : Scanner}

/-- One more point of a text in quotes. -/
theorem scanned_point {piece : List Char} {n : Nat} (h : Spelling cs tokens.reverse)
    (hbody : Quoted body points.reverse) (hpiece : Quoted piece [n]) :
    Scanned (cs ++ '"' :: (body ++ piece)) ⟨.quoted (n :: points), tokens⟩ := by
  refine .quoted h ?_
  rw [List.reverse_cons]
  exact hbody.append hpiece

theorem scanned_quoted (h : Spelling cs tokens.reverse) (hbody : Quoted body points.reverse)
    (hstep : step? ⟨.quoted points, tokens⟩ c = some s) :
    Scanned (cs ++ '"' :: (body ++ [c])) s := by
  simp only [step?] at hstep
  split at hstep
  · next hc =>
    obtain rfl := Option.some.inj hstep
    refine .between ?_
    rw [hc, List.reverse_cons]
    exact h.snoc (.string hbody (hbody.content_iff.2 rfl))
  · next hquote =>
    split at hstep
    · next hc =>
      obtain rfl := Option.some.inj hstep
      rw [hc]
      exact .escaped h hbody
    · next hslash =>
      split at hstep
      · cases hstep
      · next hcontrol =>
        obtain rfl := Option.some.inj hstep
        exact scanned_point h hbody (.plain hquote hslash (Nat.le_of_not_lt hcontrol) .nil)

theorem scanned_escaped (h : Spelling cs tokens.reverse) (hbody : Quoted body points.reverse)
    (hstep : step? ⟨.escaped points, tokens⟩ c = some s) :
    Scanned (cs ++ '"' :: (body ++ ['\\', c])) s := by
  simp only [step?] at hstep
  split at hstep
  · next hc =>
    obtain rfl := Option.some.inj hstep
    rw [hc]
    exact @Scanned.hex _ _ _ _ _ 3 _ h hbody .nil rfl
  · obtain ⟨n, hn, rfl⟩ := Option.map_eq_some_iff.1 hstep
    exact scanned_point h hbody (.escape hn .nil)

theorem scanned_hex {digits : List Char} {due value : Nat} (h : Spelling cs tokens.reverse)
    (hbody : Quoted body points.reverse) (hdigits : HexDigits digits value)
    (hlength : digits.length + due = 3)
    (hstep : step? ⟨.hex points due value, tokens⟩ c = some s) :
    Scanned (cs ++ '"' :: (body ++ '\\' :: 'u' :: (digits ++ [c]))) s := by
  obtain ⟨d, hd, rfl⟩ := Option.map_eq_some_iff.1 hstep
  have hmore := hdigits.snoc hd
  have hcount : (digits ++ [c]).length + due = 4 := by
    rw [List.length_append, List.length_singleton]
    omega
  cases due with
  | zero =>
    have hunit := Quoted.unit hmore hcount .nil
    rw [List.append_nil] at hunit
    exact scanned_point h hbody hunit
  | succ due => exact .hex h hbody hmore (by omega)

end

/-- A step keeps up what the scanner has behind it. -/
theorem scanned_step {cs : List Char} {s s' : Scanner} {c : Char} (h : Scanned cs s)
    (hstep : s.step? c = some s') : Scanned (cs ++ [c]) s' := by
  cases h with
  | between h => exact scanned_open h hstep
  | word h =>
    simp only [step?] at hstep
    split at hstep
    · obtain rfl := Option.some.inj hstep
      rw [List.append_assoc, ← List.reverse_cons]
      exact .word h
    · obtain ⟨tokens', hend, hopen⟩ := Option.bind_eq_some_iff.1 hstep
      exact scanned_open (spelling_endWord h hend) hopen
  | quoted h hbody => simpa using scanned_quoted h hbody hstep
  | escaped h hbody => simpa using scanned_escaped h hbody hstep
  | hex h hbody hdigits hlength => simpa using scanned_hex h hbody hdigits hlength hstep

theorem scanned_run {cs ds : List Char} {s s' : Scanner} (h : Scanned cs s)
    (hrun : s.run? ds = some s') : Scanned (cs ++ ds) s' := by
  induction ds generalizing cs s with
  | nil =>
    rw [List.append_nil, ← Option.some.inj hrun]
    exact h
  | cons c ds ih =>
    obtain ⟨next, hstep, hrest⟩ := Option.bind_eq_some_iff.1 hrun
    have hnext := ih (scanned_step h hstep) hrest
    rw [List.append_assoc] at hnext
    exact hnext

end Scanner

/-- **Soundness.**  A text spells the tokens that are found in it. -/
theorem spelling_of_tokens? {cs : List Char} {ts : List Token} (h : tokens? cs = some ts) :
    Spelling cs ts := by
  obtain ⟨s, hrun, hfinish⟩ := Option.bind_eq_some_iff.1 h
  have hstart : Scanner.Scanned [] { } := .between .nil
  have hend : Scanner.Scanned cs s := Scanner.scanned_run hstart hrun
  cases hend with
  | between hspelling =>
    rw [← Option.some.inj hfinish]
    exact hspelling
  | word hspelling =>
    obtain ⟨tokens', hword, rfl⟩ := Option.map_eq_some_iff.1 hfinish
    exact Scanner.spelling_endWord hspelling hword
  | quoted | escaped | hex => cases hfinish

/-! ## Completeness -/

/-- Holds of scalars. -/
def isScalar : Token → Bool
  | .scalar _ => true
  | _ => false

/-- No two scalars stand side by side. -/
def Apart (ts : List Token) : Prop :=
  ts.IsChain fun t u => t.isScalar = false ∨ u.isScalar = false

theorem apart_singleton (t : Token) : Apart [t] := List.isChain_singleton t

/-- A mark may stand in front of anything. -/
theorem apart_cons {t : Token} {ts : List Token} (ht : t.isScalar = false) (h : Apart ts) :
    Apart (t :: ts) :=
  List.isChain_cons.2 ⟨fun _ _ => .inl ht, h⟩

/-- A mark may stand between anything. -/
theorem apart_join {t : Token} {ts us : List Token} (h : Apart ts) (ht : t.isScalar = false)
    (h' : Apart us) : Apart (ts ++ t :: us) := by
  refine List.isChain_append.2 ⟨h, apart_cons ht h', fun _ _ u hu => ?_⟩
  obtain rfl : t = u := by simpa using hu
  exact .inr ht

theorem isWordChar_of_isSpace {c : Char} (h : isSpace c = true) : isWordChar c = false := by
  simp only [isSpace, Bool.or_eq_true, beq_iff_eq] at h
  rcases h with ((rfl | rfl) | rfl) | rfl <;> rfl

theorem isWordChar_of_mark {c : Char} {t : Token} (h : punctuation? c = some t) :
    isWordChar c = false := by
  revert h
  fun_cases punctuation? c <;> intro h <;> first | rfl | cases h

/-- What spells tokens of which the first is no scalar does not go on with a word. -/
theorem Spelling.head {cs : List Char} {ts : List Token} (h : Spelling cs ts)
    (hts : ∀ t ∈ ts.head?, t.isScalar = false) : ∀ c ∈ cs.head?, isWordChar c = false := by
  intro c hc
  cases h with
  | nil => cases hc
  | space hspace h =>
    rw [← Option.some.inj hc]
    exact isWordChar_of_isSpace hspace
  | token ht h =>
    cases ht with
    | mark hmark =>
      rw [← Option.some.inj hc]
      exact isWordChar_of_mark hmark
    | word hword => cases hts _ rfl
    | string hbody htext => cases hts _ rfl

namespace Scanner

variable {tokens : List Token}

/-- Word characters go on with a word. -/
theorem run?_word {spelt cs : List Char} (h : ∀ c ∈ cs, isWordChar c = true) :
    (Scanner.mk (.word spelt) tokens).run? cs
      = some ⟨.word (cs.reverse ++ spelt), tokens⟩ := by
  induction cs generalizing spelt with
  | nil => rfl
  | cons c cs ih =>
    obtain ⟨hc, hcs⟩ := List.forall_mem_cons.1 h
    have hstep : step? ⟨.word spelt, tokens⟩ c = some ⟨.word (c :: spelt), tokens⟩ := if_pos hc
    rw [run?_cons, hstep, Option.bind_some, ih hcs, List.reverse_cons, List.append_assoc,
      List.singleton_append]

/-- A word is ended by what does not go on with it. -/
theorem finish_word {spelt cs : List Char} {tokens' : List Token}
    (hend : endWord? spelt tokens = some tokens') (hcs : ∀ c ∈ cs.head?, isWordChar c = false) :
    ((Scanner.mk (.word spelt) tokens).run? cs).bind finish?
      = ((Scanner.mk .between tokens').run? cs).bind finish? := by
  cases cs with
  | nil =>
    show (endWord? spelt tokens).map List.reverse = some tokens'.reverse
    rw [hend]
    rfl
  | cons c cs =>
    have hstep : step? ⟨.word spelt, tokens⟩ c = open? tokens' c := by
      simp only [step?, hcs c rfl, hend]
      rfl
    rw [run?_cons, run?_cons, hstep]
    rfl

theorem open?_word {c : Char} (h : isWordChar c = true) :
    open? tokens c = some ⟨.word [c], tokens⟩ := by
  have hspace : isSpace c ≠ true := by
    intro hspace
    rw [isWordChar_of_isSpace hspace] at h
    cases h
  have hquote : c ≠ '"' := by
    rintro rfl
    cases h
  rw [open?, if_neg hspace, if_neg hquote, if_pos h]

theorem step?_mark {c : Char} {t : Token} (h : punctuation? c = some t) :
    step? ⟨.between, tokens⟩ c = some ⟨.between, t :: tokens⟩ := by
  revert h
  fun_cases punctuation? c <;> intro h <;> cases h <;> rfl

theorem run?_hex {points : List Nat} {digits : List Char} {n : Nat} (h : HexDigits digits n)
    (hlength : digits.length ≤ 3) :
    (Scanner.mk (.hex points 3 0) tokens).run? digits
      = some ⟨.hex points (3 - digits.length) n, tokens⟩ := by
  induction h with
  | nil => rfl
  | @snoc cs n c d h hd ih =>
    rw [List.length_append, List.length_singleton] at hlength
    have hdue : 3 - cs.length = 3 - (cs.length + 1) + 1 := by omega
    rw [run?_append, ih (by omega), Option.bind_some, run?_cons, hdue]
    simp [step?, hd, run?]

/-- The last of four digits completes an escape. -/
theorem run?_four_digits {points : List Nat} {digits : List Char} {n : Nat}
    (h : HexDigits digits n) (hlength : digits.length = 4) :
    (Scanner.mk (.hex points 3 0) tokens).run? digits
      = some ⟨.quoted (n :: points), tokens⟩ := by
  cases h with
  | nil => cases hlength
  | @snoc cs n c d h hd =>
    rw [List.length_append, List.length_singleton] at hlength
    have hdue : 3 - cs.length = 0 := by omega
    rw [run?_append, run?_hex h (by omega), Option.bind_some, run?_cons, hdue]
    simp [step?, hd, run?]

/-- The characters between quotes give their code points. -/
theorem run?_quoted {body : List Char} {points : List Nat} (h : Quoted body points)
    (done : List Nat) :
    (Scanner.mk (.quoted done) tokens).run? body
      = some ⟨.quoted (points.reverse ++ done), tokens⟩ := by
  induction h generalizing done with
  | nil => rfl
  | @plain c cs ns hquote hslash hcontrol h ih =>
    have hstep : step? ⟨.quoted done, tokens⟩ c = some ⟨.quoted (c.toNat :: done), tokens⟩ := by
      simp only [step?, if_neg hquote, if_neg hslash, if_neg (Nat.not_lt.2 hcontrol)]
    rw [run?_cons, hstep, Option.bind_some, ih, List.reverse_cons, List.append_assoc,
      List.singleton_append]
  | @escape c n cs ns hn h ih =>
    have hunit : c ≠ 'u' := by
      rintro rfl
      cases hn
    have hstep : step? ⟨.escaped done, tokens⟩ c = some ⟨.quoted (n :: done), tokens⟩ := by
      simp only [step?, if_neg hunit, hn, Option.map_some]
    have hslash : step? ⟨.quoted done, tokens⟩ '\\' = some ⟨.escaped done, tokens⟩ := rfl
    rw [run?_cons, hslash, Option.bind_some, run?_cons, hstep, Option.bind_some, ih,
      List.reverse_cons, List.append_assoc, List.singleton_append]
  | @unit digits n cs ns hdigits hlength h ih =>
    have hslash : step? ⟨.quoted done, tokens⟩ '\\' = some ⟨.escaped done, tokens⟩ := rfl
    have hunit : step? ⟨.escaped done, tokens⟩ 'u' = some ⟨.hex done 3 0, tokens⟩ := rfl
    rw [run?_cons, hslash, Option.bind_some, run?_cons, hunit, Option.bind_some, run?_append,
      run?_four_digits hdigits hlength, Option.bind_some, ih, List.reverse_cons,
      List.append_assoc, List.singleton_append]

theorem run?_string {body : List Char} {points : List Nat} {t : Option String}
    (h : Quoted body points) (ht : Content points t) :
    (Scanner.mk .between tokens).run? ('"' :: (body ++ ['"']))
      = some ⟨.between, .scalar (.text t) :: tokens⟩ := by
  have hopen : step? ⟨.between, tokens⟩ '"' = some ⟨.quoted [], tokens⟩ := rfl
  rw [run?_cons, hopen, Option.bind_some, run?_append, run?_quoted h, Option.bind_some,
    List.append_nil, h.content_iff.1 ht]
  simp [run?, step?]

theorem run?_whole_word {word : List Char} {s : Scalar} (h : Word word s) :
    (Scanner.mk .between tokens).run? word = some ⟨.word word.reverse, tokens⟩ := by
  obtain ⟨nonempty, hchars⟩ := h.chars
  obtain ⟨c, rest, rfl⟩ := List.exists_cons_of_ne_nil nonempty
  obtain ⟨hc, hrest⟩ := List.forall_mem_cons.1 hchars
  have hopen : step? ⟨.between, tokens⟩ c = some ⟨.word [c], tokens⟩ := open?_word hc
  rw [run?_cons, hopen, Option.bind_some, run?_word hrest, List.reverse_cons]

theorem endWord?_reverse {word : List Char} {s : Scalar} (h : Word word s) :
    endWord? word.reverse tokens = some (.scalar s :: tokens) := by
  rw [endWord?, List.reverse_reverse, word?_eq_some_iff.2 h]
  rfl

end Scanner

/-- **Completeness.**  Tokens of which no two scalars stand side by side are found in a text that
    spells them. -/
theorem tokens?_of_spelling {cs : List Char} {ts : List Token} (h : Spelling cs ts)
    (hapart : Apart ts) : tokens? cs = some ts := by
  have hall : ∀ done, ((Scanner.mk .between done).run? cs).bind Scanner.finish?
      = some (done.reverse ++ ts) := by
    induction h with
    | nil =>
      intro done
      rw [List.append_nil]
      rfl
    | @space c cs ts hc h ih =>
      intro done
      have hstep : Scanner.step? ⟨.between, done⟩ c = some ⟨.between, done⟩ := if_pos hc
      rw [Scanner.run?_cons, hstep]
      exact ih hapart done
    | @token word t cs ts ht h ih =>
      intro done
      obtain ⟨hnext, hrest⟩ := List.isChain_cons.1 hapart
      have hdone : done.reverse ++ t :: ts = (t :: done).reverse ++ ts := by simp
      rw [hdone, ← ih hrest (t :: done), Scanner.run?_append]
      cases ht with
      | mark hmark =>
        rw [Scanner.run?_cons, Scanner.step?_mark hmark]
        rfl
      | word hword =>
        -- what follows is no scalar, so the word ends here
        have hhead := h.head fun u hu => (hnext u hu).resolve_left (by simp [isScalar])
        rw [Scanner.run?_whole_word hword, Option.bind_some]
        exact Scanner.finish_word (Scanner.endWord?_reverse hword) hhead
      | string hbody htext =>
        rw [Scanner.run?_string hbody htext]
        rfl
  exact hall []

end Token

end FilterPlan
