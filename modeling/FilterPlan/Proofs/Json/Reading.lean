/-
  Texts are read as the values that they spell.

  1. **Completeness** — a reader that takes the tokens of a phrase stands behind the phrase
     (`run?_of_derives`).
  2. **Soundness** — `Taken` says which tokens a reader has behind it: those that lead into the
     arrays and objects it is inside of, and there the phrase so far.  A step keeps that up.
  3. **The crux (`read?_eq_some_iff`)** — the grammar and the reader agree, so a text is a document
     of one value at most.
-/
import FilterPlan.Json.Reader
import FilterPlan.Proofs.Json.Scanning

namespace FilterPlan

open Json

namespace Reader

/-- The reader after some tokens. -/
def run? (r : Reader) (ts : List Token) : Option Reader := ts.foldlM step? r

theorem run?_cons (r : Reader) (t : Token) (ts : List Token) :
    r.run? (t :: ts) = (r.step? t).bind fun next => next.run? ts := rfl

theorem run?_append (r : Reader) (ts us : List Token) :
    r.run? (ts ++ us) = (r.run? ts).bind fun next => next.run? us :=
  List.foldlM_append

/-! ## Completeness -/

/-- Where a reader has to begin for a phrase in these frames. -/
def before (stack : List Frame) : Phrase → Reader
  | .value _ => .value stack
  | .items _ => .firstItem stack
  | .members _ => .firstKey stack

/-- Where a reader is behind the phrase. -/
def behind (stack : List Frame) : Phrase → Reader
  | .value j => supply stack j
  | .items js => .afterItem js.reverse stack
  | .members ms => .afterMember ms.reverse stack

/-- A value does not begin with the end of an array. -/
theorem run?_firstItem {ts : List Token} {j : Json} (h : Derives ts (.value j))
    (stack : List Frame) :
    (Reader.firstItem stack).run? ts = (Reader.value (.array [] :: stack)).run? ts := by
  cases h <;> rfl

theorem run?_of_derives {ts : List Token} {p : Phrase} (h : Derives ts p) (stack : List Frame) :
    (before stack p).run? ts = some (behind stack p) := by
  induction h generalizing stack with
  | scalar s => rfl
  | emptyArray => rfl
  | emptyObject => rfl
  | @array ts js h ih =>
    have hopen : step? (.value stack) .openArray = some (.firstItem stack) := rfl
    show (Reader.value stack).run? _ = _
    rw [run?_cons, hopen, Option.bind_some, run?_append]
    show ((before stack (.items js)).run? ts).bind _ = _
    rw [ih]
    simp [behind, run?, step?]
  | @object ts ms h ih =>
    have hopen : step? (.value stack) .openObject = some (.firstKey stack) := rfl
    show (Reader.value stack).run? _ = _
    rw [run?_cons, hopen, Option.bind_some, run?_append]
    show ((before stack (.members ms)).run? ts).bind _ = _
    rw [ih]
    simp [behind, run?, step?]
  | @item ts j h ih =>
    show (Reader.firstItem stack).run? ts = _
    rw [run?_firstItem h]
    exact ih (.array [] :: stack)
  | @moreItems ts us js j hitems hitem ih ih' =>
    show (before stack (.items js)).run? _ = _
    rw [run?_append, ih, Option.bind_some, behind, run?_cons]
    show (before (.array js.reverse :: stack) (.value j)).run? us = _
    rw [ih']
    simp [behind, supply]
  | @member ts key j h ih =>
    show (before (.object [] key :: stack) (.value j)).run? ts = _
    rw [ih]
    rfl
  | @moreMembers ts us ms key j hmembers hmember ih ih' =>
    show (before stack (.members ms)).run? _ = _
    rw [run?_append, ih, Option.bind_some, behind, run?_cons]
    show (before (.object ms.reverse key :: stack) (.value j)).run? us = _
    rw [ih']
    simp [behind, supply]

/-! ## Soundness -/

/-- The tokens lead to where a value is due inside of these frames. -/
inductive Opened : List Frame → List Token → Prop
  | nil : Opened [] []
  | firstItem {stack ts} (h : Opened stack ts) : Opened (.array [] :: stack) (ts ++ [.openArray])
  | nextItem {stack ts us done} (h : Opened stack ts) (hdone : Derives us (.items done.reverse)) :
    Opened (.array done :: stack) (ts ++ .openArray :: (us ++ [.comma]))
  | firstMember {stack ts key} (h : Opened stack ts) :
    Opened (.object [] key :: stack) (ts ++ [.openObject, .scalar (.text key), .colon])
  | nextMember {stack ts us done key} (h : Opened stack ts)
    (hdone : Derives us (.members done.reverse)) :
    Opened (.object done key :: stack)
      (ts ++ .openObject :: (us ++ [.comma, .scalar (.text key), .colon]))

/-- The reader has these tokens behind it. -/
inductive Taken : Reader → List Token → Prop
  | value {stack ts} (h : Opened stack ts) : Taken (.value stack) ts
  | firstItem {stack ts} (h : Opened stack ts) : Taken (.firstItem stack) (ts ++ [.openArray])
  | afterItem {stack ts us done} (h : Opened stack ts) (hdone : Derives us (.items done.reverse)) :
    Taken (.afterItem done stack) (ts ++ .openArray :: us)
  | firstKey {stack ts} (h : Opened stack ts) : Taken (.firstKey stack) (ts ++ [.openObject])
  | nextKey {stack ts us done} (h : Opened stack ts) (hdone : Derives us (.members done.reverse)) :
    Taken (.nextKey done stack) (ts ++ .openObject :: (us ++ [.comma]))
  | afterFirstKey {stack ts key} (h : Opened stack ts) :
    Taken (.afterKey [] key stack) (ts ++ [.openObject, .scalar (.text key)])
  | afterNextKey {stack ts us done key} (h : Opened stack ts)
    (hdone : Derives us (.members done.reverse)) :
    Taken (.afterKey done key stack)
      (ts ++ .openObject :: (us ++ [.comma, .scalar (.text key)]))
  | afterMember {stack ts us done} (h : Opened stack ts)
    (hdone : Derives us (.members done.reverse)) :
    Taken (.afterMember done stack) (ts ++ .openObject :: us)
  | finished {ts value} (h : Derives ts (.value value)) : Taken (.finished value) ts

/-- A value takes its place in the frame that waited for it. -/
theorem taken_supply {stack : List Frame} {ts us : List Token} {value : Json}
    (h : Opened stack ts) (hvalue : Derives us (.value value)) :
    Taken (supply stack value) (ts ++ us) := by
  cases h with
  | nil => exact .finished hvalue
  | firstItem h =>
    have hitem := @Taken.afterItem _ _ _ [value] h (.item hvalue)
    simpa [supply] using hitem
  | nextItem h hdone =>
    have hitems := Derives.moreItems hdone hvalue
    rw [← List.reverse_cons] at hitems
    simpa [supply] using Taken.afterItem h hitems
  | @firstMember _ _ key h =>
    have hmember := @Taken.afterMember _ _ _ [(key, value)] h (.member hvalue)
    simpa [supply] using hmember
  | @nextMember _ _ _ _ key h hdone =>
    have hmembers := @Derives.moreMembers _ _ _ key _ hdone hvalue
    rw [← List.reverse_cons] at hmembers
    simpa [supply] using Taken.afterMember h hmembers

theorem taken_begin {stack : List Frame} {ts : List Token} {t : Token} {r : Reader}
    (h : Opened stack ts) (hbegin : begin? stack t = some r) : Taken r (ts ++ [t]) := by
  cases t with
  | scalar s =>
    obtain rfl := Option.some.inj hbegin
    exact taken_supply h (.scalar s)
  | openArray =>
    obtain rfl := Option.some.inj hbegin
    exact .firstItem h
  | openObject =>
    obtain rfl := Option.some.inj hbegin
    exact .firstKey h
  | closeArray | closeObject | colon | comma => cases hbegin

/-- A step keeps up what the reader has behind it. -/
theorem taken_step {r r' : Reader} {ts : List Token} {t : Token} (h : Taken r ts)
    (hstep : r.step? t = some r') : Taken r' (ts ++ [t]) := by
  revert hstep
  fun_cases step? r t <;> intro hstep
  case case1 stack =>
    cases h with
    | value h => exact taken_begin h hstep
  case case2 stack =>
    obtain rfl := Option.some.inj hstep
    cases h with
    | firstItem h => simpa using taken_supply h .emptyArray
  case case3 stack _ =>
    cases h with
    | firstItem h => exact taken_begin (.firstItem h) hstep
  case case4 done stack =>
    obtain rfl := Option.some.inj hstep
    cases h with
    | afterItem h hdone => simpa using Taken.value (.nextItem h hdone)
  case case5 done stack =>
    obtain rfl := Option.some.inj hstep
    cases h with
    | afterItem h hdone => simpa using taken_supply h (.array hdone)
  case case6 stack =>
    obtain rfl := Option.some.inj hstep
    cases h with
    | firstKey h => simpa using taken_supply h .emptyObject
  case case7 stack key =>
    obtain rfl := Option.some.inj hstep
    cases h with
    | firstKey h => simpa using @Taken.afterFirstKey _ _ key h
  case case8 done stack key =>
    obtain rfl := Option.some.inj hstep
    cases h with
    | nextKey h hdone => simpa using @Taken.afterNextKey _ _ _ _ key h hdone
  case case9 done key stack =>
    obtain rfl := Option.some.inj hstep
    cases h with
    | afterFirstKey h => simpa using Taken.value (@Opened.firstMember _ _ key h)
    | afterNextKey h hdone => simpa using Taken.value (@Opened.nextMember _ _ _ _ key h hdone)
  case case10 done stack =>
    obtain rfl := Option.some.inj hstep
    cases h with
    | afterMember h hdone => simpa using Taken.nextKey h hdone
  case case11 done stack =>
    obtain rfl := Option.some.inj hstep
    cases h with
    | afterMember h hdone => simpa using taken_supply h (.object hdone)
  case case12 => cases hstep

theorem taken_run {r r' : Reader} {ts us : List Token} (h : Taken r ts)
    (hrun : r.run? us = some r') : Taken r' (ts ++ us) := by
  induction us generalizing r ts with
  | nil =>
    rw [List.append_nil, ← Option.some.inj hrun]
    exact h
  | cons t us ih =>
    obtain ⟨next, hstep, hrest⟩ := Option.bind_eq_some_iff.1 hrun
    have hnext := ih (taken_step h hstep) hrest
    rw [List.append_assoc] at hnext
    exact hnext

end Reader

namespace Json

/-! ## Documents -/

theorem ofTokens?_eq_some_iff {ts : List Token} {j : Json} :
    ofTokens? ts = some j ↔ Derives ts (.value j) := by
  constructor
  · intro h
    simp only [ofTokens?] at h
    split at h
    · next value hrun =>
      obtain rfl := Option.some.inj h
      have hend : Reader.Taken (.finished value) ts := Reader.taken_run (.value .nil) hrun
      cases hend with
      | finished hderives => exact hderives
    · cases h
  · intro h
    have hrun : ts.foldlM Reader.step? (.value []) = some (.finished j) :=
      Reader.run?_of_derives h []
    rw [ofTokens?, hrun]

/-- Between two scalars of a phrase stands a comma or a colon. -/
theorem Derives.apart {ts : List Token} {p : Phrase} (h : Derives ts p) : Token.Apart ts := by
  induction h with
  | scalar s => exact Token.apart_singleton _
  | emptyArray | emptyObject => exact Token.apart_cons rfl (Token.apart_singleton _)
  | array h ih | object h ih =>
    exact Token.apart_cons rfl (Token.apart_join ih rfl List.isChain_nil)
  | item h ih => exact ih
  | moreItems hitems hitem ih ih' => exact Token.apart_join ih rfl ih'
  | member h ih => exact Token.apart_join (Token.apart_singleton _) rfl ih
  | moreMembers hmembers hmember ih ih' =>
    exact Token.apart_join ih rfl (Token.apart_join (Token.apart_singleton _) rfl ih')

/-- **Reading.**  A text is read as a value just when it is a document of this value. -/
theorem read?_eq_some_iff {text : String} {j : Json} :
    read? text = some j ↔ IsDocument text j := by
  constructor
  · intro h
    obtain ⟨ts, htokens, hvalue⟩ := Option.bind_eq_some_iff.1 h
    exact ⟨ts, Token.spelling_of_tokens? htokens, ofTokens?_eq_some_iff.1 hvalue⟩
  · rintro ⟨ts, hspelling, hderives⟩
    rw [read?, Token.tokens?_of_spelling hspelling hderives.apart]
    exact ofTokens?_eq_some_iff.2 hderives

/-- A text is a document of one value at most. -/
theorem IsDocument.unique {text : String} {j j' : Json} (h : IsDocument text j)
    (h' : IsDocument text j') : j = j' := by
  rw [← read?_eq_some_iff] at h h'
  rw [h] at h'
  exact Option.some.inj h'

end Json

end FilterPlan
