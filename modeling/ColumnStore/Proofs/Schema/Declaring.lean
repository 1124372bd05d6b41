import Mathlib.Data.List.Forall2
import ColumnStore.Proofs.Schema.Creating
import ColumnStore.Proofs.Sql.Items

/-! Which columns a table is created with, and by which of them it is ordered, as the text says it.
Columns that do not start with the key get it in front, even if they have it further on; then it is
declared twice.
-/

namespace ColumnStore

open Lexical

-----------------------------------------------------------------------------------------
-- Reading the text of a table
-----------------------------------------------------------------------------------------

/-- A name that is written in quotes: it has no backslash, is no function call and has no alias. -/
structure IsQuotable (name : String) : Prop where
  backslash : '\\' ∉ name.toList
  call : Identifier.isExpression name.toList = false
  single : Identifier.splitAlias? name.toList = none

instance (name : String) : Decidable (IsQuotable name) :=
  decidable_of_iff ('\\' ∉ name.toList ∧ Identifier.isExpression name.toList = false
      ∧ Identifier.splitAlias? name.toList = none)
    ⟨fun ⟨backslash, call, single⟩ => ⟨backslash, call, single⟩, fun h => ⟨h.1, h.2, h.3⟩⟩

/-- What a table is created with: the names of its columns, and that of the column it is ordered by. -/
structure CreatedTable where
  columns : List String
  key : String
deriving DecidableEq

/-- The name that an item of a list of columns starts with, blanks in front of it apart. -/
def itemName (item : List Char) : String :=
  String.ofList (readName .code (item.dropWhile (· = ' ')))

/-- What a text creates a table with, where the table is written in a given way. -/
def createdTable? (table sql : String) : Option CreatedTable := do
  let list ← sql.toList.dropPrefix? ("create table if not exists " ++ table ++ " (").toList
  let cut ← cutList? ⟨.code, 0⟩ list
  let key ← cut.rest.dropPrefix? " ENGINE = MergeTree() ORDER BY (".toList
  return { columns := cut.items.map itemName, key := itemName key }

theorem itemName_blank (item : List Char)
    : itemName (' ' :: item) = itemName item := by
  simp [itemName]

-----------------------------------------------------------------------------------------
-- Items
-----------------------------------------------------------------------------------------

/-- A text is an item of a list of columns and declares a column of a name. -/
structure Declares (item : List Char) (name : String) : Prop where
  words : IsItem item
  named : itemName item = name

/-- Items that declare columns are items, and hold the names of the columns. By list induction. -/
theorem Declares.all {items : List (List Char)} {names : List String}
    (each : List.Forall₂ Declares items names)
    : (∀ item ∈ items, IsItem item) ∧ items.map itemName = names := by
  induction each with
  | nil => exact ⟨by simp, rfl⟩
  | cons here _ ih =>
    obtain ⟨words, named⟩ := ih
    exact ⟨List.forall_mem_cons.2 ⟨here.words, words⟩, by rw [List.map_cons, here.named, named]⟩

theorem IsQuotable.toList_columnSql {name : String} (quotable : IsQuotable name)
    : (columnSql name).toList = Identifier.dotted name.toList := by
  rw [columnSql, String.toList_ofList, Identifier.IsSegmented.column_eq ⟨quotable.call, quotable.single⟩]

/-- The name of a column is read off its text, whatever follows apart. -/
theorem itemName_dotted {cs : List Char} (backslash : '\\' ∉ cs) {rest : List Char}
    (apart : StartsApart rest)
    : itemName (Identifier.dotted cs ++ rest) = String.ofList cs := by
  have solid : (Identifier.dotted cs ++ rest).dropWhile (· = ' ') = Identifier.dotted cs ++ rest := by
    obtain ⟨first, others, parts⟩ := List.exists_cons_of_ne_nil (List.splitOn_ne_nil '.' cs)
    rw [Identifier.dotted, parts, List.map_cons, Identifier.intercalate_dot_cons]
    rcases Identifier.segment_cases first with ⟨-, shape⟩ | ⟨-, shape⟩ <;> rw [shape]
    · rfl
    · rfl
  rw [itemName, solid, readName_dotted backslash apart]

namespace ColumnSpec

/-- The text of a column declares it, whatever its type and its default hold. -/
theorem declares {column : ColumnSpec} (quotable : IsQuotable column.name) (e : Escaping)
    : Declares (column.sql e).toList column.name := by
  rw [toList_sql_eq, quotable.toList_columnSql]
  have name := isWord_dotted quotable.backslash
  have type := (isPart_typeSql e column).isWord
  constructor
  · refine .words name ?_
    rw [defaultText]
    cases column.default with
    | none => simpa using IsItem.word type
    | some value =>
      have word : IsWord "DEFAULT".toList := (isPart_word (by simp [IsScalarChar]) 0).isWord
      have literal := ((literalText_quote e value).isPart 0).isWord
      simpa using IsItem.words type (.words word (.word literal))
  · rw [itemName_dotted quotable.backslash ⟨' ', _, rfl, rfl⟩, String.ofList_toList]

end ColumnSpec

namespace Blueprint

theorem declares_addedKey
    : Declares "id UInt64 not null".toList "id" := by
  have word {cs : List Char} (each : ∀ c ∈ cs, IsScalarChar c) : IsWord cs :=
    (isPart_word each 0).isWord
  have key : IsWord "id".toList := word (by simp [IsScalarChar])
  have type : IsWord "UInt64".toList := word (by simp [IsScalarChar])
  have negation : IsWord "not".toList := word (by simp [IsScalarChar])
  have null : IsWord "null".toList := word (by simp [IsScalarChar])
  constructor
  · simpa using IsItem.words key (.words type (.words negation (.word null)))
  · rfl

theorem declares_addedTime
    : Declares "timestamp DateTime64(3)".toList "timestamp" := by
  have name : IsWord "timestamp".toList := (isPart_word (by simp [IsScalarChar]) 0).isWord
  have type : IsWord "DateTime64(3)".toList := (isPart_type .native .timestamp 0).isWord
  constructor
  · simpa using IsItem.words name (.word type)
  · rfl

/-- The columns that a table gets: the added ones, then its own. -/
def createdNames (b : Blueprint) : List String :=
  (if b.startsWithKey then [] else ["id", "timestamp"]) ++ b.columns.map (·.name)

def createdItems (d : Dialect) (b : Blueprint) : List (List Char) :=
  (if b.startsWithKey then [] else ["id UInt64 not null".toList, "timestamp DateTime64(3)".toList])
    ++ b.columns.map fun column => (column.sql d.escaping).toList

variable {d : Dialect} {b : Blueprint}

theorem forall_declares (quotable : ∀ column ∈ b.columns, IsQuotable column.name)
    : List.Forall₂ Declares (b.createdItems d) b.createdNames := by
  have own : List.Forall₂ Declares (b.columns.map fun column => (column.sql d.escaping).toList)
      (b.columns.map (·.name)) := by
    rw [List.forall₂_map_left_iff, List.forall₂_map_right_iff, List.forall₂_same]
    intro column member
    exact ColumnSpec.declares (quotable column member) d.escaping
  rw [createdItems, createdNames]
  split
  · exact own
  · exact .cons declares_addedKey (.cons declares_addedTime own)

theorem declarationsText_eq (d : Dialect) (b : Blueprint)
    : b.declarationsText d = [',', ' '].intercalate (b.createdItems d) := by
  rw [declarationsText, declarations, createdItems, columnsSql]
  cases b.startsWithKey with
  | true => simp [Function.comp_def]
  | false => simp [Function.comp_def, Text.intercalate_cons, addedKeyColumns]

theorem createdItems_ne_nil (d : Dialect) (b : Blueprint)
    : b.createdItems d ≠ [] := by
  rw [createdItems]
  cases keyed : b.startsWithKey with
  | true =>
    have own : b.columns ≠ [] := by
      intro none
      simp [startsWithKey, none] at keyed
    simpa using own
  | false => simp

/-- The ordering key is read as the key column, in quotes and without. -/
theorem itemName_orderingKey (b : Blueprint) (rest : List Char)
    : itemName (b.orderingKey.toList ++ ')' :: rest) = "id" := by
  rw [orderingKey]
  split
  · have quotable : IsQuotable "id" := by decide
    rw [quotable.toList_columnSql, itemName_dotted quotable.backslash ⟨')', rest, rfl, rfl⟩,
      String.ofList_toList]
  · rfl

/-- What a table is created with is read off the text that creates it. -/
theorem createdTable?_compileCreate (quotable : ∀ column ∈ b.columns, IsQuotable column.name)
    : createdTable? (d.tableSql b.table) (b.compileCreate d) = some ⟨b.createdNames, "id"⟩ := by
  obtain ⟨first, others, items⟩ := List.exists_cons_of_ne_nil (createdItems_ne_nil d b)
  obtain ⟨words, named⟩ := Declares.all (forall_declares (d := d) quotable)
  rw [items] at words named
  obtain ⟨firstWords, otherWords⟩ := List.forall_mem_cons.1 words
  have names : (first :: others.map (' ' :: ·)).map itemName = b.createdNames := by
    rw [← named]
    simp [Function.comp_def, itemName_blank]
  have drop (front rest : List Char) : (front ++ rest).dropPrefix? front = some rest :=
    List.dropPrefix?_append_of_beq rest (by simp)
  have list : b.declarationsText d = first ++ others.flatMap fun item => [',', ' '] ++ item := by
    rw [declarationsText_eq, items, Text.intercalate_cons]
  rw [createdTable?, toList_compileCreate_eq, drop]
  simp only [Option.bind_eq_bind, Option.bind_some, list, cutList?_items firstWords otherWords, drop,
    ListCut.items, names, itemName_orderingKey]
  rfl

/-- The key is among the columns, as the first of its own or as an added one. -/
theorem key_mem_createdNames (b : Blueprint)
    : "id" ∈ b.createdNames := by
  rw [createdNames]
  cases keyed : b.startsWithKey with
  | true =>
    obtain ⟨first, found, key⟩ := (Option.any_eq_true _ _).1 keyed
    have own : first ∈ b.columns := List.mem_of_head? found
    have named : first.name = "id" := by simpa using key
    simpa using ⟨first, own, named⟩
  | false => simp

theorem nodup_createdNames_iff (distinct : (b.columns.map (·.name)).Nodup)
    : b.createdNames.Nodup
      ↔ b.startsWithKey ∨ "id" ∉ b.columns.map (·.name) ∧ "timestamp" ∉ b.columns.map (·.name) := by
  rw [createdNames]
  cases b.startsWithKey with
  | true => simpa using distinct
  | false => simp [distinct]

/-- A table is created with the added columns and its own, and is ordered by one of them. If its own have
different names, none is declared twice exactly if its own start with the key, or are neither called as
the key nor as the time that is added to it.
-/
theorem createdTable_nodup_iff (quotable : ∀ column ∈ b.columns, IsQuotable column.name)
    (distinct : (b.columns.map (·.name)).Nodup)
    : ∃ created, createdTable? (d.tableSql b.table) (b.compileCreate d) = some created
        ∧ created.columns
          = (if b.startsWithKey then [] else ["id", "timestamp"]) ++ b.columns.map (·.name)
        ∧ created.key ∈ created.columns
        ∧ (created.columns.Nodup
          ↔ b.startsWithKey
            ∨ "id" ∉ b.columns.map (·.name) ∧ "timestamp" ∉ b.columns.map (·.name)) :=
  ⟨_, createdTable?_compileCreate quotable, rfl, b.key_mem_createdNames,
    nodup_createdNames_iff distinct⟩

/-- Columns whose texts and defaults are written as columns of their own. -/
def hostileTable : Blueprint where
  table := "my.events"
  columns := [
    .id,
    { name := "kind, \"id\"", type := .enumeration ["a', \"id\" String), (b"], nullable := true },
    { name := "note", type := .string, default := some (.string "'), \"id\" String, (") }]

/-- No text within a column declares another one. -/
theorem createdTable_nodup_iff_hostileTable
    : ∃ created,
        createdTable? (({} : Dialect).tableSql hostileTable.table) (hostileTable.compileCreate {})
          = some created
        ∧ created.columns = ["id", "kind, \"id\"", "note"]
        ∧ created.columns.Nodup := by
  obtain ⟨created, read, columns, -, nodup⟩ :=
    @createdTable_nodup_iff {} hostileTable (by decide) (by decide)
  exact ⟨created, read, columns, nodup.2 (.inl rfl)⟩

/-- Users that are numbered, but not in their first column. -/
def usersTable : Blueprint where
  table := "users"
  columns := [{ name := "name", type := .string }, .id]

/-- The number is declared twice. -/
theorem not_nodup_usersTable
    : (usersTable.columns.map (·.name)).Nodup
      ∧ ∃ created,
          createdTable? (({} : Dialect).tableSql usersTable.table) (usersTable.compileCreate {})
            = some created
          ∧ created.columns = ["id", "timestamp", "name", "id"]
          ∧ ¬ created.columns.Nodup := by
  refine ⟨by decide, ⟨_, "id"⟩, createdTable?_compileCreate (by decide), rfl, ?_⟩
  change ¬ ["id", "timestamp", "name", "id"].Nodup
  simp

end Blueprint

end ColumnStore
