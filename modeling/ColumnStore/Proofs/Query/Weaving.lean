import ColumnStore.Proofs.Identifier.Weaving
import ColumnStore.Proofs.Query.Names

/-! A compiled query is put together of quoted names, values and raw texts with words between them.
Its names are plain for that, and what is asked of its raw texts is left open.
-/

namespace ColumnStore

open Lexical Statement

variable {Fits : Statement → Prop}

/-- A raw text that fits once its values are in their places. -/
def Statement.RawFits (Fits : Statement → Prop) (raw : String × List Value) : Prop :=
  ∀ s, empty.pushRaw raw.1 raw.2 = .ok s → Fits s

-----------------------------------------------------------------------------------------
-- Names in SQL text
-----------------------------------------------------------------------------------------

theorem isWoven_columnSql {name : String} (h : PlainName name.toList)
    : (text (columnSql name)).IsWoven Fits :=
  Identifier.isWoven_column h

theorem isWoven_columnListSql {names : List String} (h : ∀ name ∈ names, PlainName name.toList)
    : (text (columnListSql names)).IsWoven Fits := by
  rw [columnListSql, ← joined_text]
  refine isWoven_joined (by decide) (by decide) ?_
  intro s member
  obtain ⟨sql, known, rfl⟩ := List.mem_map.1 member
  obtain ⟨name, listed, rfl⟩ := List.mem_map.1 known
  exact isWoven_columnSql (h name listed)

-----------------------------------------------------------------------------------------
-- Conditions
-----------------------------------------------------------------------------------------

namespace Condition

/-- A column and an operator leave room for a value or another column. -/
theorem isFree_comparison {column : String} (h : PlainName column.toList) (operator : Operator)
    : (text (columnSql column ++ " " ++ operator.sql ++ " ")).IsFree Fits := by
  rw [String.append_assoc, String.append_assoc, text_append]
  cases operator <;> exact (isWoven_columnSql h).separate (by decide) (by decide)

/-- A column with a word of its own and a negation or none leaves room as well. -/
theorem isFree_negation {column lead word : String} (h : PlainName column.toList)
    (filled : lead ≠ "") (leads : IsWords lead.toList) (negated : Bool)
    (words : IsWords word.toList)
    : (text (columnSql column ++ lead ++ negation negated ++ word)).IsFree Fits := by
  have negation : (text (negation negated)).IsFree Fits := by
    cases negated <;> exact isFree_text (by decide)
  rw [text_append, text_append, text_append]
  have head := ((isWoven_columnSql h).separate filled leads).append_free negation
  exact head.append_free (isFree_text words)

theorem isWoven_values (values : List Value)
    : (joined ", " (values.map .param)).IsWoven Fits := by
  refine isWoven_joined (by decide) (by decide) ?_
  intro s member
  obtain ⟨v, _, rfl⟩ := List.mem_map.1 member
  exact isWoven_param v

/-- Membership in a list is put together of values, an empty list of none. -/
theorem isWoven_inList {column : String} (h : PlainName column.toList) (values : List Value)
    (negated : Bool)
    : (inList column values negated).IsWoven Fits := by
  unfold inList
  split
  · cases negated <;> exact (isFree_text (by decide)).isWoven
  · have head : (text (columnSql column ++ " " ++ negation negated ++ "in (")).IsFree Fits :=
      isFree_negation h (by decide) (by decide) negated (by decide)
    exact ((head.append (isWoven_values values)).separate (by decide) (by decide)).isWoven

theorem isWoven_between {column : String} (h : PlainName column.toList) (low high : Value)
    (negated : Bool)
    : (text (columnSql column ++ " " ++ negation negated ++ "between ")
        ++ param low ++ text " and " ++ param high).IsWoven Fits := by
  have head : (text (columnSql column ++ " " ++ negation negated ++ "between ")).IsFree Fits :=
    isFree_negation h (by decide) (by decide) negated (by decide)
  have first : (text (columnSql column ++ " " ++ negation negated ++ "between ") ++ param low
      ++ text " and ").IsFree Fits :=
    (head.append (isWoven_param low)).separate (by decide) (by decide)
  exact first.append (isWoven_param high)

mutual

/-- A condition is put together of its parts, by induction over its groups. -/
theorem isWoven_ofPredicate
    : ∀ (p : Predicate) {s : Statement},
        (∀ name ∈ p.names, PlainName name.toList)
        → (∀ raw ∈ p.raws, RawFits Fits raw)
        → ofPredicate p = .ok s
        → s.IsWoven Fits
  | .basic column operator value, s, names, _, ok => by
    obtain rfl := pure_eq_ok.1 ok
    have column := names column (by simp [Predicate.names])
    exact (isFree_comparison column operator).append (isWoven_param value)
  | .columns first operator second, s, names, _, ok => by
    obtain rfl := pure_eq_ok.1 ok
    have left := names first (by simp [Predicate.names])
    have right := names second (by simp [Predicate.names])
    rw [text_append]
    exact (isFree_comparison left operator).append (isWoven_columnSql right)
  | .inList column values negated, s, names, _, ok => by
    obtain rfl := pure_eq_ok.1 ok
    exact isWoven_inList (names column (by simp [Predicate.names])) values negated
  | .isNull column negated, s, names, _, ok => by
    obtain rfl := pure_eq_ok.1 ok
    have column := names column (by simp [Predicate.names])
    exact (isFree_negation column (by decide) (by decide) negated (by decide)).isWoven
  | .between column low high negated, s, names, _, ok => by
    obtain rfl := pure_eq_ok.1 ok
    exact isWoven_between (names column (by simp [Predicate.names])) low high negated
  | .raw sql bindings, s, _, raws, ok => by
    have fits := raws (sql, bindings) (by simp [Predicate.raws])
    exact isWoven_raw (fits s ok)
  | .nested [], s, _, _, ok => by
    obtain rfl := pure_eq_ok.1 ok
    exact (isFree_text (by decide)).isWoven
  | .nested ((connector, first) :: rest), s, names, raws, ok => by
    simp only [Predicate.names, Condition.names, List.forall_mem_append] at names
    simp only [Predicate.raws, Condition.raws, List.forall_mem_append] at raws
    simp only [ofPredicate, bind_eq_ok, pure_eq_ok] at ok
    obtain ⟨a, firstOk, b, restOk, rfl⟩ := ok
    have opened : (text "(").IsFree Fits := isFree_text (by decide)
    have group := opened.append (isWoven_ofPredicate first names.1 raws.1 firstOk)
    have entries := isWoven_linked rest names.2 raws.2 restOk group
    exact (entries.separate (by decide) (by decide)).isWoven

/-- Conditions behind their connectors may follow what is put together, by list induction. -/
theorem isWoven_linked
    : ∀ (entries : List Where) {s t : Statement},
        (∀ name ∈ Condition.names entries, PlainName name.toList)
        → (∀ raw ∈ Condition.raws entries, RawFits Fits raw)
        → linked entries = .ok t
        → s.IsWoven Fits
        → (s ++ t).IsWoven Fits
  | [], s, t, _, _, ok, before => by
    obtain rfl := pure_eq_ok.1 ok
    rwa [append_empty]
  | (connector, predicate) :: rest, s, t, names, raws, ok, before => by
    simp only [Condition.names, List.forall_mem_append] at names
    simp only [Condition.raws, List.forall_mem_append] at raws
    simp only [linked, bind_eq_ok, pure_eq_ok] at ok
    obtain ⟨a, firstOk, b, restOk, rfl⟩ := ok
    have separated : (s ++ text (" " ++ connector.keyword ++ " ")).IsFree Fits := by
      cases connector <;> exact before.separate (by decide) (by decide)
    have first := separated.append (isWoven_ofPredicate predicate names.1 raws.1 firstOk)
    rw [← append_assoc, ← append_assoc]
    exact isWoven_linked rest names.2 raws.2 restOk first

end

theorem isWoven_ofList {entries : List Where} {s : Statement}
    (names : ∀ name ∈ Condition.names entries, PlainName name.toList)
    (raws : ∀ raw ∈ Condition.raws entries, RawFits Fits raw) (ok : ofList entries = .ok s)
    : s.IsWoven Fits := by
  cases entries with
  | nil =>
    obtain rfl := pure_eq_ok.1 ok
    exact isFree_empty.isWoven
  | cons first rest =>
    obtain ⟨connector, predicate⟩ := first
    simp only [Condition.names, List.forall_mem_append] at names
    simp only [Condition.raws, List.forall_mem_append] at raws
    simp only [ofList, bind_eq_ok, pure_eq_ok] at ok
    obtain ⟨a, firstOk, b, restOk, rfl⟩ := ok
    exact isWoven_linked rest names.2 raws.2 restOk
      (isWoven_ofPredicate predicate names.1 raws.1 firstOk)

/-- A where clause is put together of its conditions, the empty one of none. -/
theorem isWoven_clause {wheres : List Where} {s : Statement}
    (names : ∀ name ∈ Condition.names wheres, PlainName name.toList)
    (raws : ∀ raw ∈ Condition.raws wheres, RawFits Fits raw) (ok : clause wheres = .ok s)
    : s.IsWoven Fits := by
  unfold clause at ok
  split at ok
  · obtain rfl := pure_eq_ok.1 ok
    exact isFree_empty.isWoven
  · simp only [bind_eq_ok, pure_eq_ok] at ok
    obtain ⟨a, listOk, rfl⟩ := ok
    have word : (text "where ").IsFree Fits := isFree_text (by decide)
    exact word.append (isWoven_ofList names raws listOk)

end Condition

-----------------------------------------------------------------------------------------
-- Tables and joins
-----------------------------------------------------------------------------------------

/-- A named table is put together of quoted parts. -/
theorem isWoven_tableSql {d : Dialect} {table : TableRef}
    (tablePrefix : PlainName d.tablePrefix.toList) (named : table.IsNamed)
    (names : ∀ name ∈ table.names, PlainName name.toList)
    : (text (table.sql d)).IsWoven Fits := by
  cases table with
  | name s => exact Identifier.isWoven_table tablePrefix (names s (by simp [TableRef.names]))
  | raw sql => exact named.elim

/-- A join is put together of its table and its conditions, if it has any. -/
theorem Join.isWoven_compile {d : Dialect} {join : Join} {s : Statement}
    (tablePrefix : PlainName d.tablePrefix.toList) (named : join.table.IsNamed)
    (tableNames : ∀ name ∈ join.table.names, PlainName name.toList)
    (names : ∀ name ∈ Condition.names join.on, PlainName name.toList)
    (raws : ∀ raw ∈ Condition.raws join.on, RawFits Fits raw) (ok : join.compile d = .ok s)
    : s.IsWoven Fits := by
  have keyword : (text (join.kind.keyword ++ " ")).IsFree Fits := by
    cases join.kind <;> exact isFree_text (by decide)
  have head := keyword.append (isWoven_tableSql tablePrefix named tableNames)
  rw [← text_append] at head
  unfold Join.compile at ok
  simp only at ok
  split at ok
  · obtain rfl := pure_eq_ok.1 ok
    exact head
  · simp only [bind_eq_ok, pure_eq_ok] at ok
    obtain ⟨a, listOk, rfl⟩ := ok
    exact (head.separate (by decide) (by decide)).append
      (Condition.isWoven_ofList names raws listOk)

namespace Query

/-- The names that a query puts into its text are quoted: its tables are named, and its names are
plain as the prefix of tables is.
-/
structure HasPlainNames (d : Dialect) (q : Query) : Prop where
  tablePrefix : PlainName d.tablePrefix.toList
  tables : ∀ table ∈ q.tables, table.IsNamed
  names : ∀ name ∈ q.names, PlainName name.toList

namespace HasPlainNames

variable {d : Dialect} {q : Query} (h : q.HasPlainNames d)

include h

/-- The query's own table after words. -/
theorem isWoven_ownTable {s : Statement} (words : s.IsFree Fits)
    : (s ++ text (q.table.sql d)).IsWoven Fits :=
  words.append <| isWoven_tableSql h.tablePrefix (h.tables _ (by simp [Query.tables]))
    fun name member => h.names name (by simp [Query.names, Query.tables, member])

theorem wheres
    : ∀ name ∈ Condition.names q.wheres, PlainName name.toList :=
  fun name member => h.names name (by simp [Query.names, member])

theorem orders
    : ∀ order ∈ q.orders, PlainName order.1.toList := by
  intro order member
  refine h.names _ ?_
  simp only [Query.names, List.mem_append, List.mem_map]
  exact .inl (.inl (.inr ⟨order, member, rfl⟩))

theorem columns
    : ∀ name ∈ q.columns, PlainName name.toList :=
  fun name member => h.names name (by simp [Query.names, member])

theorem isWoven_join {join : Join} {s : Statement} (member : join ∈ q.joins)
    (raws : ∀ raw ∈ Condition.raws join.on, RawFits Fits raw) (ok : join.compile d = .ok s)
    : s.IsWoven Fits := by
  refine Join.isWoven_compile h.tablePrefix ?_ ?_ ?_ raws ok
  · exact h.tables _ (List.mem_cons_of_mem _ (List.mem_map_of_mem member))
  · intro name known
    refine h.names name ?_
    simp only [Query.names, Query.tables, List.flatMap_cons, List.mem_append, List.mem_flatMap]
    exact .inl (.inl (.inl (.inl (.inr ⟨_, List.mem_map_of_mem member, known⟩))))
  · intro name known
    refine h.names name ?_
    simp only [Query.names, List.mem_append, List.mem_flatMap]
    exact .inl (.inr ⟨join, member, known⟩)

end HasPlainNames

variable {d : Dialect} {q : Query}

-----------------------------------------------------------------------------------------
-- Reads
-----------------------------------------------------------------------------------------

/-- Joins may follow what is put together, by list induction. -/
theorem isWoven_compileJoins
    : ∀ {joins : List Join} {s t : Statement},
        (∀ join ∈ joins, ∀ u, join.compile d = .ok u → u.IsWoven Fits)
        → compileJoins d joins = .ok t
        → s.IsWoven Fits
        → (s ++ t).IsWoven Fits
  | [], s, t, _, ok, before => by
    obtain rfl := pure_eq_ok.1 ok
    rwa [append_empty]
  | join :: rest, s, t, each, ok, before => by
    simp only [compileJoins, bind_eq_ok, pure_eq_ok] at ok
    obtain ⟨a, joinOk, b, restOk, rfl⟩ := ok
    have separated : (s ++ text " ").IsFree Fits := before.separate (by decide) (by decide)
    rw [← append_assoc, ← append_assoc]
    exact isWoven_compileJoins (fun other member => each other (List.mem_cons_of_mem join member))
      restOk (separated.append (each join (by simp) a joinOk))

/-- The joins and the where clause may follow what is put together. -/
theorem isWoven_compileSource {s t : Statement} (h : q.HasPlainNames d)
    (raws : ∀ raw ∈ q.raws, RawFits Fits raw) (ok : q.compileSource d = .ok t)
    (before : s.IsWoven Fits)
    : (s ++ t).IsWoven Fits := by
  simp only [compileSource, bind_eq_ok, pure_eq_ok] at ok
  obtain ⟨a, joinsOk, b, clauseOk, rfl⟩ := ok
  simp only [Query.raws, List.forall_mem_append, List.forall_mem_flatMap] at raws
  have joins := isWoven_compileJoins
    (fun join member _ => h.isWoven_join member (raws.1 join member)) joinsOk before
  rw [← append_assoc]
  split
  · rwa [append_empty]
  · rw [← append_assoc]
    exact (joins.separate (by decide) (by decide)).append
      (Condition.isWoven_clause h.wheres raws.2 clauseOk)

/-- The columns to order by, each with its direction. -/
theorem isWoven_orders {orders : List (String × Direction)}
    (names : ∀ order ∈ orders, PlainName order.1.toList)
    : (text (", ".intercalate (orders.map fun (column, direction) =>
        columnSql column ++ " " ++ direction.keyword))).IsWoven Fits := by
  rw [← joined_text]
  refine isWoven_joined (by decide) (by decide) ?_
  intro s member
  obtain ⟨sql, known, rfl⟩ := List.mem_map.1 member
  obtain ⟨⟨column, direction⟩, listed, rfl⟩ := List.mem_map.1 known
  change (text (columnSql column ++ " " ++ direction.keyword)).IsWoven Fits
  rw [String.append_assoc, text_append]
  have named : (text (columnSql column)).IsWoven Fits := isWoven_columnSql (names _ listed)
  cases direction <;> exact (named.separate (by decide) (by decide)).isWoven

/-- A numeral is made of words. -/
theorem isWords_numeral (n : Nat)
    : IsWords (toString n).toList := by
  rw [toList_toString_nat]
  intro c member
  refine ⟨quiet_of_mem_toDigits member, ?_⟩
  rintro rfl
  have digit := Nat.isDigit_of_mem_toDigits (by decide) (by decide) member
  revert digit
  decide

/-- Order, limit and offset may follow what is put together, each being there or not. -/
theorem isWoven_pagingClause {s : Statement}
    (names : ∀ order ∈ q.orders, PlainName order.1.toList) (before : s.IsWoven Fits)
    : (s ++ text q.pagingClause).IsWoven Fits := by
  have numeral (n : UInt64) : (text (toString n.toNat)).IsWoven Fits :=
    (isFree_text (isWords_numeral _)).isWoven
  unfold pagingClause
  rw [text_append, text_append, ← append_assoc, ← append_assoc]
  refine ((before.append_clause ?_).append_clause ?_).append_clause ?_
  · split
    · exact .none
    · exact .some (by decide) (by decide) (isWoven_orders names)
  · split
    · exact .none
    · exact .some (by decide) (by decide) (numeral _)
  · split
    · exact .none
    · exact .some (by decide) (by decide) (numeral _)

/-- The selected columns are quoted parts, or the star. -/
theorem isWoven_selectList (names : ∀ name ∈ q.columns, PlainName name.toList)
    : (text q.selectList).IsWoven Fits := by
  unfold selectList
  split
  · exact (isFree_text (by decide)).isWoven
  · exact isWoven_columnListSql names

theorem isWoven_compileSelect {s : Statement} (h : q.HasPlainNames d)
    (raws : ∀ raw ∈ q.raws, RawFits Fits raw) (ok : q.compileSelect d = .ok s)
    : s.IsWoven Fits := by
  simp only [compileSelect, bind_eq_ok, pure_eq_ok] at ok
  obtain ⟨source, sourceOk, rfl⟩ := ok
  have columns : (text ("select " ++ q.selectList)).IsWoven Fits := by
    rw [text_append]
    exact (isFree_text (by decide)).append (isWoven_selectList h.columns)
  have words : (text ("select " ++ q.selectList) ++ text " " ++ text "from ").IsFree Fits :=
    (columns.separate (by decide) (by decide)).append_free (isFree_text (by decide))
  have head := h.isWoven_ownTable words
  refine isWoven_pagingClause h.orders (isWoven_compileSource h raws sourceOk ?_)
  rw [TableRef.fromClause, text_append, text_append, text_append "from ", ← append_assoc]
  exact head

theorem isWoven_compileCount {s : Statement} (h : q.HasPlainNames d)
    (raws : ∀ raw ∈ q.raws, RawFits Fits raw) (ok : q.compileCount d = .ok s)
    : s.IsWoven Fits := by
  simp only [compileCount, bind_eq_ok, pure_eq_ok] at ok
  obtain ⟨source, sourceOk, rfl⟩ := ok
  refine isWoven_compileSource h raws sourceOk ?_
  rw [TableRef.fromClause, ← String.append_assoc, text_append]
  exact h.isWoven_ownTable (isFree_text (by decide))

-----------------------------------------------------------------------------------------
-- Inserts
-----------------------------------------------------------------------------------------

/-- A row is put together of its values, the empty one included. -/
theorem isWoven_row (record : Record)
    : (row record).IsWoven Fits := by
  have opened : (text "(").IsFree Fits := isFree_text (by decide)
  have values := opened.append (Condition.isWoven_values record.values)
  exact (values.separate (by decide) (by decide)).isWoven

theorem isWoven_compileInsert {values : InsertValues} (h : q.HasPlainNames d)
    (columns : ∀ record ∈ values.batch, ∀ name ∈ record.columns, PlainName name.toList)
    : (q.compileInsert d values).IsWoven Fits := by
  have table : (text ("insert into " ++ q.table.sql d)).IsWoven Fits := by
    rw [text_append]
    exact h.isWoven_ownTable (isFree_text (by decide))
  have default : (text ("insert into " ++ q.table.sql d ++ " default values")).IsWoven Fits := by
    rw [text_append]
    exact (table.separate (by decide) (by decide)).isWoven
  simp only [compileInsert]
  cases batch : values.batch with
  | nil => exact default
  | cons first rest =>
    simp only
    split
    · exact default
    · have names : (text (columnListSql first.columns)).IsWoven Fits :=
        isWoven_columnListSql (columns first (by simp [batch]))
      have head : (text ("insert into " ++ q.table.sql d ++ " (" ++ columnListSql first.columns
          ++ ") values ")).IsFree Fits := by
        rw [text_append, text_append, text_append]
        have opened : (text "insert into " ++ text (q.table.sql d) ++ text " (").IsFree Fits :=
          table.separate (by decide) (by decide)
        exact (opened.append names).separate (by decide) (by decide)
      refine head.append (isWoven_joined (by decide) (by decide) ?_)
      intro s member
      obtain ⟨record, _, rfl⟩ := List.mem_map.1 member
      exact isWoven_row record

-----------------------------------------------------------------------------------------
-- Mutations
-----------------------------------------------------------------------------------------

/-- The conditions of a mutation are put together, the one that stands for none included. -/
theorem isWoven_compileFilter {s : Statement} (h : q.HasPlainNames d)
    (raws : ∀ raw ∈ q.raws, RawFits Fits raw) (ok : compileFilter q.wheres = .ok s)
    : s.IsWoven Fits := by
  unfold compileFilter at ok
  split at ok
  · obtain rfl := pure_eq_ok.1 ok
    exact (isFree_text (by decide)).isWoven
  · rw [Query.raws, List.forall_mem_append] at raws
    exact Condition.isWoven_clause h.wheres raws.2 ok

/-- The table of a mutation with the word for what is done to it leaves room for more. -/
theorem isFree_mutation {word : String} (h : q.HasPlainNames d) (filled : word ≠ "")
    (words : IsWords word.toList)
    : (text ("alter table " ++ q.table.sql d ++ word)).IsFree Fits := by
  rw [text_append, text_append]
  exact (h.isWoven_ownTable (isFree_text (by decide))).separate filled words

theorem isWoven_assignment {field : Field} (h : PlainName field.1.toList)
    : (assignment field).IsWoven Fits := by
  rw [assignment, text_append]
  exact ((isWoven_columnSql h).separate (by decide) (by decide)).append (isWoven_param field.2)

theorem isWoven_compileUpdate {record : Record} {s : Statement} (h : q.HasPlainNames d)
    (raws : ∀ raw ∈ q.raws, RawFits Fits raw)
    (columns : ∀ name ∈ record.columns, PlainName name.toList)
    (ok : q.compileUpdate d record = .ok s)
    : s.IsWoven Fits := by
  unfold compileUpdate at ok
  split at ok
  · simp at ok
  split at ok
  · simp at ok
  simp only [bind_eq_ok, pure_eq_ok] at ok
  obtain ⟨filter, filterOk, rfl⟩ := ok
  have assignments : (joined ", " (record.fields.map assignment)).IsWoven Fits := by
    refine isWoven_joined (by decide) (by decide) ?_
    intro s member
    obtain ⟨field, known, rfl⟩ := List.mem_map.1 member
    exact isWoven_assignment (columns field.1 (List.mem_map_of_mem known))
  have mutation : (text ("alter table " ++ q.table.sql d ++ " update ")).IsFree Fits :=
    isFree_mutation h (by decide) (by decide)
  have head := mutation.append assignments
  exact (head.separate (by decide) (by decide)).append (isWoven_compileFilter h raws filterOk)

theorem isWoven_compileDelete {s : Statement} (h : q.HasPlainNames d)
    (raws : ∀ raw ∈ q.raws, RawFits Fits raw) (ok : q.compileDelete d = .ok s)
    : s.IsWoven Fits := by
  unfold compileDelete at ok
  split at ok
  · simp at ok
  split at ok
  · simp at ok
  simp only [bind_eq_ok, pure_eq_ok] at ok
  obtain ⟨filter, filterOk, rfl⟩ := ok
  have head : (text ("alter table " ++ q.table.sql d ++ " delete ")).IsFree Fits :=
    isFree_mutation h (by decide) (by decide)
  exact head.append (isWoven_compileFilter h raws filterOk)

/-- Whatever a query compiles to is put together of quoted names, values and raw texts. -/
theorem isWoven_of_compiles {values : InsertValues} {record : Record} {s : Statement}
    (h : q.HasPlainNames d) (raws : ∀ raw ∈ q.raws, RawFits Fits raw)
    (inserted : ∀ row ∈ values.batch, ∀ name ∈ row.columns, PlainName name.toList)
    (updated : ∀ name ∈ record.columns, PlainName name.toList)
    (compiles : q.Compiles d values record s)
    : s.IsWoven Fits := by
  cases compiles with
  | select ok => exact isWoven_compileSelect h raws ok
  | count ok => exact isWoven_compileCount h raws ok
  | insert => exact isWoven_compileInsert h inserted
  | update ok => exact isWoven_compileUpdate h raws updated ok
  | delete ok => exact isWoven_compileDelete h raws ok

end Query

end ColumnStore
