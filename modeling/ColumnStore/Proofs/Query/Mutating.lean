import ColumnStore.Proofs.Sql.Segments
import ColumnStore.Query.Compile

/-! Which rows a mutation reaches. It filters as the read of its query does, and a query with joins or a
limit has no mutation; but an offset is passed over, so the read leaves out rows that a mutation reaches.
-/

namespace ColumnStore

/-- Conditions that are there have a clause that is not empty. -/
theorem Condition.exists_of_clause {wheres : List Where} {s : Statement} (filled : wheres ≠ [])
    (ok : Condition.clause wheres = .ok s)
    : ∃ c, s = .text "where " ++ c ∧ s.isEmpty = false := by
  rw [Condition.clause, if_neg (by simpa using filled)] at ok
  obtain ⟨c, -, same⟩ := bind_eq_ok.1 ok
  obtain rfl := pure_eq_ok.1 same
  refine ⟨c, rfl, ?_⟩
  by_contra empty
  have symbols := Statement.isEmpty_iff.1 (by simpa using empty)
  simp [Statement.textSymbols] at symbols

namespace Query

/-- A mutation: an update with a record, or a delete. -/
inductive Mutation where
  | update (values : Record)
  | delete

/-- A query reads fewer rows than meet its conditions: it has a join, a limit or an offset. -/
def IsNarrowed (q : Query) : Prop :=
  q.joins ≠ [] ∨ q.limit ≠ none ∨ q.offset ≠ none

/-- The filter of a mutation says what a where clause says; `where 1` stands for no clause. -/
inductive FiltersAs : Statement → Statement → Prop where
  | all : FiltersAs .empty (.text "where 1")
  | conditions (c : Statement) : FiltersAs (.text " where " ++ c) (.text "where " ++ c)

namespace Mutation

def compile (d : Dialect) (q : Query) : Mutation → Except Error Statement
  | update values => q.compileUpdate d values
  | delete => q.compileDelete d

/-- What a mutation says in front of its filter. -/
def head (d : Dialect) (q : Query) : Mutation → Statement
  | update values =>
    .text ("alter table " ++ q.table.sql d ++ " update ")
      ++ .joined ", " (values.fields.map assignment) ++ .text " "
  | delete => .text ("alter table " ++ q.table.sql d ++ " delete ")

/-- A mutation has the filter of the read of its query, which has no clause only if there are no
conditions.
-/
def SharesFilter (m : Mutation) (d : Dialect) (q : Query) (s : Statement) : Prop :=
  ∃ clause filter,
    q.compileSelect d
      = .ok (.text ("select " ++ q.selectList ++ " " ++ q.table.fromClause d)
          ++ clause ++ .text q.pagingClause)
    ∧ s = m.head d q ++ filter
    ∧ FiltersAs clause filter
    ∧ (clause = .empty ↔ q.wheres = [])

/-- A mutation reaches the rows that its query reads: it has the same filter, and the read of the query
is not narrowed by anything else.
-/
structure StaysWithin (m : Mutation) (d : Dialect) (q : Query) (s : Statement) : Prop where
  unnarrowed : ¬ q.IsNarrowed
  filter : m.SharesFilter d q s

end Mutation

variable {d : Dialect} {q : Query}

/-- What is compiled behind the guards of a mutation has neither joins nor a limit. -/
theorem eq_ok_of_guarded {result : Except Error Statement} {e f : Error} {s : Statement}
    (ok : (if !q.joins.isEmpty then .error e else if q.limit.isSome then .error f else result) = .ok s)
    : q.joins = [] ∧ q.limit = none ∧ result = .ok s := by
  split at ok
  · cases ok
  · rename_i joined
    split at ok
    · cases ok
    · rename_i limited
      exact ⟨by simpa using joined, by simpa using limited, ok⟩

/-- A mutation that compiles has its filter behind its head. -/
theorem Mutation.eq_of_compile {m : Mutation} {s : Statement} (ok : m.compile d q = .ok s)
    : q.joins = [] ∧ q.limit = none
      ∧ ∃ filter, compileFilter q.wheres = .ok filter ∧ s = m.head d q ++ filter := by
  cases m with
  | update values =>
    obtain ⟨joins, limit, compiled⟩ := eq_ok_of_guarded ok
    obtain ⟨filter, filtered, same⟩ := bind_eq_ok.1 compiled
    exact ⟨joins, limit, filter, filtered, (pure_eq_ok.1 same).symm⟩
  | delete =>
    obtain ⟨joins, limit, compiled⟩ := eq_ok_of_guarded ok
    obtain ⟨filter, filtered, same⟩ := bind_eq_ok.1 compiled
    exact ⟨joins, limit, filter, filtered, (pure_eq_ok.1 same).symm⟩

/-- The read of a query without joins has the clause that its filter stands for. -/
theorem exists_clause_of_filter (joins : q.joins = []) {filter : Statement}
    (ok : compileFilter q.wheres = .ok filter)
    : ∃ clause, q.compileSource d = .ok clause ∧ FiltersAs clause filter
        ∧ (clause = .empty ↔ q.wheres = []) := by
  by_cases wheres : q.wheres = []
  · rw [wheres] at ok
    cases ok
    refine ⟨.empty, ?_, .all, by simp [wheres]⟩
    rw [compileSource, joins, wheres]
    rfl
  · rw [compileFilter, if_neg (by simpa using wheres)] at ok
    obtain ⟨c, rfl, filled⟩ := Condition.exists_of_clause wheres ok
    refine ⟨.text " where " ++ c, ?_, .conditions c, ?_⟩
    · rw [compileSource, joins, ok]
      simp only [compileJoins, bind, Except.bind, pure, Except.pure, filled]
      rw [Statement.empty_append, if_neg Bool.false_ne_true, ← Statement.append_assoc]
      rfl
    · constructor
      · intro empty
        have symbols := congrArg Statement.symbols empty
        simp [Statement.textSymbols] at symbols
      · intro bare
        exact absurd bare wheres

/-- A mutation that compiles has the filter of the read, whatever the offset of its query. It stays
within what the query reads exactly if there is no offset.
-/
theorem Mutation.staysWithin_iff {m : Mutation} {s : Statement} (ok : m.compile d q = .ok s)
    : (m.StaysWithin d q s ↔ q.offset = none)
      ∧ q.joins = [] ∧ q.limit = none ∧ m.SharesFilter d q s
      ∧ ∀ offset, m.compile d { q with offset := offset } = .ok s := by
  obtain ⟨joins, limit, filter, filtered, rfl⟩ := eq_of_compile ok
  obtain ⟨clause, source, same, bare⟩ := exists_clause_of_filter (d := d) joins filtered
  have shared : m.SharesFilter d q (m.head d q ++ filter) := by
    refine ⟨clause, filter, ?_, rfl, same, bare⟩
    rw [compileSelect, source]
    rfl
  have narrowed : q.IsNarrowed ↔ q.offset ≠ none := by
    simp [IsNarrowed, joins, limit]
  refine ⟨⟨?_, ?_⟩, joins, limit, shared, ?_⟩
  · intro within
    by_contra shifted
    exact within.unnarrowed (narrowed.2 shifted)
  · intro unshifted
    exact ⟨fun left => narrowed.1 left unshifted, shared⟩
  · intro offset
    rw [← ok]
    cases m <;> rfl

/-- Some events, of which a read leaves out the first five. -/
def shiftedQuery : Query where
  table := .name "events"
  wheres := [(.and, .basic "name" .eq (.string "it's")), (.or, .raw "size > ?" [.int 1])]
  offset := some 5

def clearSizes : Mutation :=
  .update (.ofList [("size", .int 0)])

/-- Without its offset, the query has an update that stays within it. -/
theorem Mutation.staysWithin_iff_unshifted
    : ∃ s, clearSizes.compile {} { shiftedQuery with offset := none } = .ok s
        ∧ clearSizes.StaysWithin {} { shiftedQuery with offset := none } s :=
  ⟨_, rfl, (staysWithin_iff rfl).1.2 rfl⟩

/-- The query is read from the sixth row on, but its delete compiles. -/
theorem Mutation.not_staysWithin_shiftedQuery
    : ∃ s, Mutation.delete.compile {} shiftedQuery = .ok s
        ∧ ¬ Mutation.delete.StaysWithin {} shiftedQuery s := by
  refine ⟨_, rfl, ?_⟩
  intro within
  have narrowed : shiftedQuery.IsNarrowed := by simp [IsNarrowed, shiftedQuery]
  exact within.unnarrowed narrowed

end Query

end ColumnStore
