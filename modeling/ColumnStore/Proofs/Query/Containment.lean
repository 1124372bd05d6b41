import ColumnStore.Proofs.Query.Weaving
import ColumnStore.Proofs.Sql.Sealing

/-! No bound value breaks out of its literal in a compiled query. Reads, inserts and mutations of
named tables, without raw text and with plain names, contain every literal that they are given.
-/

namespace ColumnStore

open Lexical Statement

namespace Query

/-- All that a query puts into its text is quoted: its tables are named, its names are plain as the
prefix of tables is, and there is no raw text.
-/
structure IsQuoted (d : Dialect) (q : Query) : Prop where
  tablePrefix : PlainName d.tablePrefix.toList
  tables : ∀ table ∈ q.tables, table.IsNamed
  names : ∀ name ∈ q.names, PlainName name.toList
  raws : q.raws = []

variable {d : Dialect} {q : Query}

theorem IsQuoted.hasPlainNames (h : q.IsQuoted d)
    : q.HasPlainNames d :=
  ⟨h.tablePrefix, h.tables, h.names⟩

/-- Without raw texts, what is asked of them is met. -/
theorem IsQuoted.rawFits (h : q.IsQuoted d) {Fits : Statement → Prop}
    : ∀ raw ∈ q.raws, RawFits Fits raw := by
  simp [h.raws]

theorem sealed_compileSelect {s : Statement} (h : q.IsQuoted d) (ok : q.compileSelect d = .ok s)
    : s.Sealed :=
  (isWoven_compileSelect h.hasPlainNames h.rawFits ok).sealed

theorem sealed_compileCount {s : Statement} (h : q.IsQuoted d) (ok : q.compileCount d = .ok s)
    : s.Sealed :=
  (isWoven_compileCount h.hasPlainNames h.rawFits ok).sealed

theorem sealed_compileInsert {values : InsertValues} (h : q.IsQuoted d)
    (columns : ∀ record ∈ values.batch, ∀ name ∈ record.columns, PlainName name.toList)
    : (q.compileInsert d values).Sealed :=
  (isWoven_compileInsert h.hasPlainNames columns).sealed

theorem sealed_compileUpdate {record : Record} {s : Statement} (h : q.IsQuoted d)
    (columns : ∀ name ∈ record.columns, PlainName name.toList)
    (ok : q.compileUpdate d record = .ok s)
    : s.Sealed :=
  (isWoven_compileUpdate h.hasPlainNames h.rawFits columns ok).sealed

theorem sealed_compileDelete {s : Statement} (h : q.IsQuoted d) (ok : q.compileDelete d = .ok s)
    : s.Sealed :=
  (isWoven_compileDelete h.hasPlainNames h.rawFits ok).sealed

/-- No value breaks out of its literal in a compiled statement, under either escaping: every
literal is opened in code and leaves the scanner in code, and every other character is read in the
state in which the template has it.
-/
theorem contained_of_compiles {d : Dialect} {q : Query} {values : InsertValues}
    {record : Record} {s : Statement} (h : q.IsQuoted d)
    (inserted : ∀ row ∈ values.batch, ∀ name ∈ row.columns, PlainName name.toList)
    (updated : ∀ name ∈ record.columns, PlainName name.toList)
    (compiles : q.Compiles d values record s) (e : Escaping)
    : s.Contained e := by
  refine Sealed.contained ?_ e
  cases compiles with
  | select ok => exact sealed_compileSelect h ok
  | count ok => exact sealed_compileCount h ok
  | insert => exact sealed_compileInsert h inserted
  | update ok => exact sealed_compileUpdate h updated ok
  | delete ok => exact sealed_compileDelete h ok

/-- A query whose names hold quotes and dashes, and whose values try to end their literals: with a
quote, with a last backslash, and within a nested array.
-/
def hostileQuery : Query where
  table := .name "events as \"e\""
  columns := ["-- id"]
  wheres := [
    (.and, .basic "na'me" .eq (.string "'; drop table users; --")),
    (.or, .nested [(.and, .inList "k" [.array [.string "\\", .int (-1)]] true)])]

/-- The hostile query is quoted and compiles, so its values stay in their literals. -/
theorem contained_hostileQuery
    : hostileQuery.IsQuoted { tablePrefix := "it's_" }
      ∧ ∃ s,
          hostileQuery.compileSelect { tablePrefix := "it's_" } = .ok s
          ∧ s.Contained .doubling := by
  have quoted : hostileQuery.IsQuoted { tablePrefix := "it's_" } := by constructor <;> decide
  refine ⟨quoted, _, rfl, ?_⟩
  exact @contained_of_compiles _ _ (.many []) .empty _ quoted (by decide) (by decide)
    (.select rfl) .doubling

end Query

end ColumnStore
