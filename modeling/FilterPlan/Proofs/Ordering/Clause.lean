/-
  Ordering clauses read back.

  1. **Keys in text** — the clause of a key is its identifier and the word of its sense; that of
     more is the first key's, the separator and the clause of the others.
  2. **Entries** — a key is read as the entry of its field cut at its dots, whatever a PostgreSQL
     field holds.  A Dynamic LINQ field stands as it is, so it must be `CanOrderBy`.
  3. **The crux (`orderingClause_reads_back`)** — the clause that rules ask for reads back, in one
     way only, as the keys that they ask for, in the order of their rank.
-/
import FilterPlan.Planner
import FilterPlan.Proofs.Expression.Tests
import FilterPlan.Proofs.Ordering.Grammar
import FilterPlan.Proofs.Ordering.Ranking

namespace FilterPlan

open Lexeme Grammar

/-! ## Keys in text -/

namespace OrderingKey

/-- The text of a key by itself. -/
def spelt (d : Dialect) (k : OrderingKey) : String := d.identifier k.field ++ " " ++ d.sense k.sense

theorem text_template (d : Dialect) (k : OrderingKey) (t : Template) :
    Template.text d 0 (template d k ++ t) = k.spelt d ++ Template.text d 0 t := by
  rw [template, spelt, List.cons_append, List.cons_append, List.cons_append, List.nil_append,
    Template.text, Template.text, Template.text, String.append_assoc, String.append_assoc]

theorem clause_eq_text (d : Dialect) (keys : List OrderingKey) :
    clause d keys = Template.text d 0 (clauseTemplate d keys) := by
  rw [clause, Draft.push_eq, String.empty_append]
  rfl

theorem clause_singleton (d : Dialect) (k : OrderingKey) : clause d [k] = k.spelt d := by
  have hone : clauseTemplate d [k] = template d k ++ [] := rfl
  rw [clause_eq_text, hone, text_template, Template.text, String.append_empty]

theorem clause_cons_cons (d : Dialect) (k next : OrderingKey) (rest : List OrderingKey) :
    clause d (k :: next :: rest)
      = k.spelt d ++ (d.keySeparator ++ clause d (next :: rest)) := by
  rw [clause_eq_text, clause_eq_text, clauseTemplate, List.map_cons, List.map_cons,
    List.intercalate_cons_cons, List.append_assoc, text_template, List.singleton_append,
    Template.text]
  rfl

/-- The clause of a key or more is not empty, whatever the fields are. -/
theorem clause_ne_empty (d : Dialect) {keys : List OrderingKey} (h : keys ≠ []) :
    clause d keys ≠ "" := by
  obtain ⟨k, rest, rfl⟩ := List.exists_cons_of_ne_nil h
  intro hempty
  have hspelt : k.spelt d = "" := by
    cases rest with
    | nil =>
      rw [clause_singleton] at hempty
      exact hempty
    | cons next rest =>
      rw [clause_cons_cons] at hempty
      exact (String.append_eq_empty_iff.1 hempty).1
  -- there is a space behind the field at least
  rw [spelt, String.append_eq_empty_iff, String.append_eq_empty_iff] at hspelt
  exact absurd hspelt.1.2 (by decide)

theorem clause_eq_empty_iff {d : Dialect} {keys : List OrderingKey} :
    clause d keys = "" ↔ keys = [] := by
  constructor
  · intro hempty
    cases keys with
    | nil => rfl
    | cons k rest => exact absurd hempty (clause_ne_empty d (List.cons_ne_nil k rest))
  · rintro rfl
    rfl

end OrderingKey

/-! ## Entries -/

/-- Holds of the fields that an ordering clause of a dialect can tell apart: PostgreSQL quotes any,
    and Dynamic LINQ takes dotted words. -/
def Dialect.CanOrderBy (field : String) : Dialect → Prop
  | .dynamicLinq => ∀ c ∈ field.toList, isWordChar c = true ∨ c = '.'
  | .postgres => True

/-- The word of a sense is read as that sense. -/
theorem reads_sense (d : Dialect) (sense : Sense) :
    Reads d (d.sense sense).toList [.word (d.sense sense)] ∧
      sense? d (d.sense sense) = some sense := by
  refine ⟨reads_word d ?_ ?_, ?_⟩
  · cases d <;> cases sense <;> decide
  · cases d <;> cases sense <;> decide +kernel
  · cases d <;> cases sense <;> rfl

/-- A name of a field is read as a name. -/
theorem reads_name {d : Dialect} {field name : String} (hfield : d.CanOrderBy field)
    (hname : name ∈ Text.pieces '.' field) :
    ∃ ls, Reads d (d.spell name) ls ∧ IsName d ls name := by
  cases d with
  | postgres => exact ⟨_, reads_quoted name, .quoted name⟩
  | dynamicLinq =>
    by_cases hempty : name = ""
    · rw [hempty]
      exact ⟨[], (closed_nil .dynamicLinq).reads, .empty⟩
    · refine ⟨_, reads_word .dynamicLinq hempty (List.all_eq_true.2 fun c hc => ?_), .word name⟩
      have hsplit : Text.SplitsInto '.' field (Text.pieces '.' field) := Text.splitsInto_iff.2 rfl
      rcases hfield c (Text.mem_of_mem_pieces hname hc) with hword | rfl
      · exact hword
      · exact absurd hc (hsplit.free name hname)

/-- The entry that a key is read as. -/
def OrderingKey.entry (k : OrderingKey) : OrderingEntry := ⟨Text.pieces '.' k.field, k.sense⟩

theorem OrderingKey.entry_eq_iff {k : OrderingKey} {e : OrderingEntry} :
    k.entry = e ↔ Text.SplitsInto '.' k.field e.path ∧ e.sense = k.sense := by
  obtain ⟨path, sense⟩ := e
  rw [entry, OrderingEntry.mk.injEq, Text.splitsInto_iff, eq_comm, eq_comm (a := k.sense)]

/-- The entries of keys are their fields cut at the dots, and their senses. -/
theorem OrderingKey.forall₂_entry_iff {keys : List OrderingKey} {entries : List OrderingEntry} :
    List.Forall₂ (fun (k : OrderingKey) (e : OrderingEntry) =>
      Text.SplitsInto '.' k.field e.path ∧ e.sense = k.sense) keys entries ↔
        keys.map entry = entries := by
  simp only [← entry_eq_iff]
  rw [← List.forall₂_map_left_iff, List.forall₂_eq_eq_eq]

/-- **Entries.**  The text of a key is read as the entry of its field and its sense. -/
theorem reads_key {d : Dialect} {k : OrderingKey} (hfield : d.CanOrderBy k.field) :
    ∃ ts, Reads d (k.spelt d).toList ts ∧ IsEntry d ts k.entry := by
  have hsplit : Text.SplitsInto '.' k.field (Text.pieces '.' k.field) := Text.splitsInto_iff.2 rfl
  obtain ⟨names, hnames⟩ := exists_forall₂_iff.2 fun name hname => reads_name hfield hname
  have hpieces : List.Forall₂ (Reads d) ((Text.pieces '.' k.field).map fun name => d.spell name)
      names := List.forall₂_map_left_iff.2 (hnames.imp fun name ls h => h.1)
  have hspelt : List.Forall₂ (IsName d) names (Text.pieces '.' k.field) :=
    (hnames.imp fun name ls h => h.2).flip
  obtain ⟨hsense, hmeant⟩ := reads_sense d k.sense
  refine ⟨_, ?_, .intro hsplit.nonempty hspelt hmeant⟩
  have hfield := (reads_dotted hpieces).before_space
  rw [OrderingKey.spelt, String.toList_append, String.toList_append, toList_identifier]
  exact closed_append_reads hfield hsense

/-! ## Clauses -/

/-- **Clauses.**  The clause of keys is read as their entries. -/
theorem readsClause_clause {d : Dialect} {keys : List OrderingKey} (nonempty : keys ≠ [])
    (hkeys : ∀ k ∈ keys, d.CanOrderBy k.field) :
    ReadsClause d (OrderingKey.clause d keys).toList (keys.map OrderingKey.entry) := by
  induction keys with
  | nil => exact absurd rfl nonempty
  | cons k rest ih =>
    obtain ⟨hk, hrest⟩ := List.forall_mem_cons.1 hkeys
    obtain ⟨ts, hreads, hentry⟩ := reads_key hk
    cases rest with
    | nil =>
      rw [OrderingKey.clause_singleton]
      exact .last hreads.lexemesFrom?_eq hentry
    | cons next rest =>
      have hothers := ih (List.cons_ne_nil next rest) hrest
      rw [OrderingKey.clause_cons_cons, String.toList_append, String.toList_append]
      -- the space of the separator stands before its comma or behind it
      cases d with
      | dynamicLinq =>
        have hseparated := ReadsClause.more hreads.before_space.reads.lexemesFrom?_eq hentry hothers
        rw [List.append_assoc] at hseparated
        exact hseparated
      | postgres => exact .more hreads.lexemesFrom?_eq hentry hothers.behind_space

/-- **Orderings read back.**  The keys that rules ask for are those of their one ranking: all active
    rules by ascending priority, and rules of one priority as they came.  So leaving out inactive
    rules changes nothing, nor does any rearrangement that keeps the rules of each priority in their
    order.  The clause is that of the keys.  It is empty where no rule is active; otherwise it is
    read in one way, as these keys in this order, each field cut at its dots. -/
theorem Settings.orderingClause_reads_back (s : Settings) (rules : List SortRule) :
    (∃ ranked, (∀ other, SortRule.IsRanking rules other ↔ other = ranked) ∧
      List.Forall₂ SortRule.AsksFor ranked (SortRule.keys rules)) ∧
    (∀ others, others.filter (fun r => r.direction ≠ .unsorted)
        = rules.filter (fun r => r.direction ≠ .unsorted) →
      SortRule.keys others = SortRule.keys rules) ∧
    (∀ others, (∀ n, others.filter (fun r => r.order = n) = rules.filter fun r => r.order = n) →
      SortRule.keys others = SortRule.keys rules) ∧
    (s.orderingClause rules).outcome
      = .ok (OrderingKey.clause s.dialect (SortRule.keys rules)) ∧
    (OrderingKey.clause s.dialect (SortRule.keys rules) = "" ↔
      ∀ r ∈ rules, r.direction = .unsorted) ∧
    ((∃ r ∈ rules, r.direction ≠ .unsorted) →
      (∀ r ∈ rules, r.direction ≠ .unsorted → s.dialect.CanOrderBy r.field) →
      ∃ entries, (∀ es, ReadsClause s.dialect
          (OrderingKey.clause s.dialect (SortRule.keys rules)).toList es ↔ es = entries) ∧
        List.Forall₂ (fun (k : OrderingKey) (e : OrderingEntry) =>
            Text.SplitsInto '.' k.field e.path ∧ e.sense = k.sense)
          (SortRule.keys rules) entries) := by
  refine ⟨⟨_, fun other => SortRule.isRanking_iff, ?_⟩, fun others h => ?_, fun others h => ?_,
    s.outcome_orderingClause rules, ?_, fun hactive hfields => ?_⟩
  · exact SortRule.asksFor_keys (SortRule.isRanking_iff.2 rfl)
  · exact SortRule.keys_of_active h
  · exact SortRule.keys_of_priorities h
  · rw [OrderingKey.clause_eq_empty_iff, SortRule.keys_eq_nil_iff]
  · have nonempty : SortRule.keys rules ≠ [] := SortRule.keys_ne_nil_iff.2 hactive
    have hkeys : ∀ k ∈ SortRule.keys rules, s.dialect.CanOrderBy k.field := by
      intro k hk
      obtain ⟨r, hr, hasks⟩ := SortRule.mem_keys_iff.1 hk
      rw [hasks.field]
      exact hfields r hr hasks.active
    have hread := readsClause_clause nonempty hkeys
    refine ⟨_, fun es => ⟨fun h => h.unique hread, ?_⟩, ?_⟩
    · rintro rfl
      exact hread
    · exact OrderingKey.forall₂_entry_iff.2 rfl

/-- Fields that look like the end of an entry, one that is empty, a priority below zero, and an
    inactive rule in between. -/
theorem Settings.orderingClause_reads_back_hostile :
    let s : Settings := ⟨{ }, .postgres⟩
    let first : SortRule := ⟨"a, \"b\" DESC.c\"", 5, .ascending⟩
    let skipped : SortRule := ⟨"d", -9, .unsorted⟩
    let last : SortRule := ⟨"b", 5, .descending⟩
    let early : SortRule := ⟨"", -3, .descending⟩
    let rules := [first, skipped, early, last]
    let clause := "\"\" DESC, \"a, \"\"b\"\" DESC\".\"c\"\"\" ASC, \"b\" DESC"
    (∃ r ∈ rules, r.direction ≠ .unsorted) ∧
      (∀ r ∈ rules, r.direction ≠ .unsorted → s.dialect.CanOrderBy r.field) ∧
      SortRule.keys [first, early, last] = SortRule.keys rules ∧
      SortRule.keys [early, first, last, skipped] = SortRule.keys rules ∧
      (s.orderingClause rules).outcome = .ok clause ∧
      ∀ es, ReadsClause .postgres clause.toList es ↔
        es = [⟨[""], .desc⟩, ⟨["a, \"b\" DESC", "c\""], .asc⟩, ⟨["b"], .desc⟩] := by
  intro s first skipped last early rules clause
  have active : ∃ r ∈ rules, r.direction ≠ .unsorted := ⟨first, List.mem_cons_self, by decide⟩
  have fields : ∀ r ∈ rules, r.direction ≠ .unsorted → s.dialect.CanOrderBy r.field :=
    fun _ _ _ => trivial
  obtain ⟨-, hleft, hmoved, houtcome, -, hread⟩ := s.orderingClause_reads_back rules
  obtain ⟨entries, hentries, hkeys⟩ := hread active fields
  have hrules : SortRule.keys rules =
      [⟨"", .desc⟩, ⟨"a, \"b\" DESC.c\"", .asc⟩, ⟨"b", .desc⟩] := by
    have hactive : rules.filter SortRule.takesPart = [first, early, last] := by decide
    rw [SortRule.keys, hactive]
    simp [first, early, last, List.mergeSort, List.MergeSort.Internal.splitInTwo,
      SortRule.inOrder, SortRule.key?, Direction.sense?]
  have hclause : OrderingKey.clause s.dialect (SortRule.keys rules) = clause := by
    rw [hrules]
    decide
  rw [hclause] at houtcome hentries
  rw [← OrderingKey.forall₂_entry_iff.1 hkeys, hrules] at hentries
  refine ⟨active, fields, hleft _ (by decide), hmoved _ fun n => ?_, houtcome, hentries⟩
  by_cases hfive : (5 : Int32) = n
  · subst hfive
    decide
  · by_cases hthree : (-3 : Int32) = n
    · subst hthree
      decide
    · simp [rules, first, skipped, last, early, List.filter_cons, hfive, hthree]

end FilterPlan
