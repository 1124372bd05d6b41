import Mathlib.Data.List.Basic
import ColumnStore.Proofs.Identifier.Places
import ColumnStore.Schema.Compile

/-! Introspection asks the catalogue for a table by the whole name, with the prefix, in the configured
database. A statement that changes a table takes the name apart, so the two agree on one-part names only.
-/

namespace ColumnStore

open Lexical Identifier

-----------------------------------------------------------------------------------------
-- What introspection asks about
-----------------------------------------------------------------------------------------

/-- The queries of the catalogue about one table. -/
inductive Dialect.Asks (d : Dialect) (name : String) : String → Prop
  | tableExists : Asks d name (d.compileTableExists name)
  | columns : Asks d name (d.compileColumns name)

/-- The place that a query of the catalogue asks about: the texts that it compares the database and the
table's name with.
-/
def askedPlace? (query : String) : Option Place := do
  let (_, rest) ← query.toList.dropInfix? " WHERE database = ".toList
  let (database, rest) ← readQuoted? '\'' rest
  let rest ← [" AND name = ", " AND table = "].findSome? fun words => rest.dropPrefix? words.toList
  let (table, _) ← readQuoted? '\'' rest
  return ⟨String.ofList database, String.ofList table⟩

/-- Where the catalogue keeps a table whose name is taken as it stands. -/
def Dialect.storedPlace (d : Dialect) (name : String) : Place :=
  ⟨d.database, d.storedName name⟩

/-- The words between the two literals of a query of the catalogue. -/
def IsComparison (words : List Char) : Prop :=
  words = " AND name = ".toList ∨ words = " AND table = ".toList

/-- The two literals of a query of the catalogue are read, whatever they hold. -/
theorem askedPlace?_of_written (e : Escaping) {query database table : String}
    {front words back : List Char}
    (written : query.toList = front
      ++ ((e.quoteText database).toList ++ (words ++ ((e.quoteText table).toList ++ back))))
    (found : ∀ rest, ((front ++ rest).dropInfix? " WHERE database = ".toList).map (·.2) = some rest)
    (comparison : IsComparison words) (apart : back.head? ≠ some '\'')
    : askedPlace? query = some ⟨database, table⟩ := by
  obtain ⟨⟨skipped, rest⟩, asks, rfl⟩ := Option.map_eq_some_iff.1 (found
    ((e.quoteText database).toList ++ (words ++ ((e.quoteText table).toList ++ back))))
  have blank (rest : List Char) : (words ++ rest).head? ≠ some '\'' := by
    rcases comparison with rfl | rfl <;> simp
  have compared (rest : List Char)
      : [" AND name = ", " AND table = "].findSome? (fun other => (words ++ rest).dropPrefix? other.toList)
        = some rest := by
    rcases comparison with rfl | rfl <;> simp [List.dropPrefix?]
  simp only [askedPlace?, written, asks, Option.bind_eq_bind, Option.bind_some,
    readQuoted?_quoteText e database (blank _), compared, readQuoted?_quoteText e table apart,
    String.ofList_toList, Option.pure_def]

/-- Introspection asks about the whole name in the configured database, whatever the name holds and
whichever escaping quotes it.
-/
theorem Dialect.Asks.askedPlace? {d : Dialect} {name query : String} (asks : d.Asks name query)
    : ColumnStore.askedPlace? query = some (d.storedPlace name) := by
  cases asks with
  | tableExists =>
    have written : (d.compileTableExists name).toList
        = "SELECT COALESCE((SELECT true AS \"exists\" FROM system.tables WHERE database = ".toList
          ++ ((d.escaping.quoteText d.database).toList
            ++ (" AND name = ".toList ++ ((d.escaping.quoteText (d.storedName name)).toList
              ++ " LIMIT 1), false) AS \"exists\"".toList))) := by
      unfold compileTableExists
      rw [String.toList_append, String.toList_append, String.toList_append,
        String.toList_append, List.append_assoc, List.append_assoc, List.append_assoc]
    refine askedPlace?_of_written d.escaping written ?_ ?_ ?_
    · intro rest
      simp [List.dropInfix?, List.dropInfix?.go, List.dropPrefix?]
    · exact .inl rfl
    · simp
  | columns =>
    have written : (d.compileColumns name).toList
        = ("SELECT name, type, default_kind, default_expression, comment"
            ++ " FROM system.columns WHERE database = ").toList
          ++ ((d.escaping.quoteText d.database).toList
            ++ (" AND table = ".toList ++ ((d.escaping.quoteText (d.storedName name)).toList
              ++ " ORDER BY position".toList))) := by
      unfold compileColumns
      rw [String.toList_append, String.toList_append, String.toList_append,
        String.toList_append, List.append_assoc, List.append_assoc, List.append_assoc]
    refine askedPlace?_of_written d.escaping written ?_ ?_ ?_
    · intro rest
      simp [List.dropInfix?, List.dropInfix?.go, List.dropPrefix?]
    · exact .inr rfl
    · simp

-----------------------------------------------------------------------------------------
-- What statements act on
-----------------------------------------------------------------------------------------

/-- The statements that change the table of a blueprint. -/
inductive Blueprint.Changes (d : Dialect) (b : Blueprint) : String → Prop
  | create : Changes d b (b.compileCreate d)
  | add (column : ColumnSpec) : Changes d b (b.compileAdd d column)
  | drop : Changes d b (d.compileDrop b.table)

/-- The words that a statement which changes a table starts with. -/
def changeWords : List String :=
  ["create table if not exists ", "alter table ", "drop table "]

/-- The place that a statement changes, as it is read behind the words that the statement starts with. -/
def changedPlace? (current : String) (sql : String) : Option Place := do
  let rest ← changeWords.findSome? fun words => sql.toList.dropPrefix? words.toList
  readPlace? current rest

/-- The table reference is read behind the words of a statement. -/
theorem changedPlace?_of_written {current sql words : String} {target : List Char}
    (known : words ∈ changeWords) (written : sql.toList = words.toList ++ target)
    : changedPlace? current sql = readPlace? current target := by
  have found : changeWords.findSome? (fun words => sql.toList.dropPrefix? words.toList)
      = some target := by
    simp only [changeWords, List.mem_cons, List.not_mem_nil, or_false] at known
    rcases known with rfl | rfl | rfl <;> simp [written, changeWords, List.dropPrefix?]
  rw [changedPlace?, found]
  rfl

/-- Each statement names the table as the reference is written, and goes on behind it with a blank or not at
all.
-/
theorem Blueprint.Changes.changedPlace? {d : Dialect} {b : Blueprint} {sql : String}
    (changes : b.Changes d sql)
    : ∃ rest, EndsName rest ∧ ∀ current, ColumnStore.changedPlace? current sql
      = readPlace? current (Identifier.table d.tablePrefix.toList b.table.toList ++ rest) := by
  have reference : (d.tableSql b.table).toList
      = Identifier.table d.tablePrefix.toList b.table.toList := String.toList_ofList
  suffices ∃ words ∈ changeWords, ∃ rest, EndsName rest
      ∧ sql.toList = words.toList ++ ((d.tableSql b.table).toList ++ rest) by
    obtain ⟨words, known, rest, ends, written⟩ := this
    refine ⟨rest, ends, fun current => ?_⟩
    rw [changedPlace?_of_written known written, reference]
  cases changes with
  | create =>
    refine ⟨"create table if not exists ", by simp [changeWords], " (".toList
      ++ ((", ".intercalate (b.declarations d)).toList ++ (") ENGINE = MergeTree() ORDER BY (".toList
        ++ (b.orderingKey.toList ++ ") SETTINGS index_granularity = 8192".toList))), ⟨?_, ?_⟩, ?_⟩
    · simp
    · simp
    · unfold compileCreate
      simp only [String.toList_append, List.append_assoc]
  | add column =>
    refine ⟨"alter table ", by simp [changeWords],
      " add column ".toList ++ (column.sql d.escaping).toList, ⟨by simp, by simp⟩, ?_⟩
    rw [compileAdd, String.toList_append, String.toList_append, String.toList_append,
      List.append_assoc, List.append_assoc]
  | drop =>
    refine ⟨"drop table ", by simp [changeWords], [], ⟨by simp, by simp⟩, ?_⟩
    rw [Dialect.compileDrop, String.toList_append, List.append_nil]

-----------------------------------------------------------------------------------------
-- Where the two agree
-----------------------------------------------------------------------------------------

variable {d : Dialect} {b : Blueprint} {sql query : String}

/-- A statement changes the table that introspection asks about exactly if the table's name is one part. -/
theorem changedPlace?_eq_askedPlace?_iff (backslash : '\\' ∉ d.tablePrefix.toList)
    (plain : PlainName b.table.toList) (changes : b.Changes d sql) (asks : d.Asks b.table query)
    : changedPlace? d.database sql = askedPlace? query
      ↔ IsRestored d.tablePrefix.toList b.table.toList := by
  obtain ⟨rest, ends, place⟩ := changes.changedPlace?
  rw [place d.database, asks.askedPlace?]
  constructor
  · intro agree
    rcases readPlace?_table backslash plain ends agree with ⟨-, restored⟩ | shorter
    · exact restored
    · simp [Dialect.storedPlace, Dialect.storedName] at shorter
  · intro restored
    have bare : '\\' ∉ d.tablePrefix.toList ++ b.table.toList := by
      simpa [backslash] using plain.1
    rw [readPlace?_of_isRestored restored bare ends, Dialect.storedPlace, Dialect.storedName,
      ← String.toList_append, String.ofList_toList]

/-- A statement for a table that a database qualifies changes the table of that database, with the prefix. -/
theorem Blueprint.Changes.changedPlace?_of_qualified (changes : b.Changes d sql)
    (backslash : '\\' ∉ d.tablePrefix.toList) (plain : PlainName b.table.toList)
    {database name : List Char} (qualified : b.table.toList = database ++ '.' :: name)
    (single : splitAlias? b.table.toList = none) (first : '.' ∉ database ∧ database ≠ ['*'])
    (second : '.' ∉ name ∧ d.tablePrefix.toList ++ name ≠ ['*']) (current : String)
    : ColumnStore.changedPlace? current sql
      = some ⟨String.ofList database, String.ofList (d.tablePrefix.toList ++ name)⟩ := by
  obtain ⟨rest, ends, place⟩ := changes.changedPlace?
  rw [place current, qualified]
  exact readPlace?_of_qualified backslash (qualified ▸ plain) (qualified ▸ single) first second ends

end ColumnStore
