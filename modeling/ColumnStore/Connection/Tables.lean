import ColumnStore.Connection.Basic
import ColumnStore.Json.Writer
import ColumnStore.Schema.Compile

/-! Schemas over a connection: tables are created, extended, dropped and listed.
The store takes one statement in each request, so several are sent one after another.
-/

namespace ColumnStore

/-- A table as the store lists it. -/
structure TableInfo where
  name : String
  schema : String
  /-- The bytes of the table, where the store knows them. -/
  size : Option UInt64
  comment : Option String
deriving DecidableEq, Repr

/-- A column as the store lists it. -/
structure ColumnInfo where
  name : String
  type : String
  nullable : Bool
  defaultKind : Option String
  defaultExpression : Option String
  comment : Option String
deriving DecidableEq, Repr

namespace Row

/-- The text of a value in a row; null and a missing value have none. -/
def text (row : Row) (name : String) : String :=
  match row.lookup name with
  | none | some .null => ""
  | some (.string s) => s
  | some v => v.compact

/-- The text of a value in a row, unless it is empty. -/
def text? (row : Row) (name : String) : Option String :=
  let text := Row.text row name
  if text.isEmpty then none else some text

end Row

def TableInfo.ofRow (row : Row) : TableInfo where
  name := Row.text row "name"
  schema := Row.text row "schema"
  size := (row.lookup "size").bind Json.unsigned?
  comment := Row.text? row "comments"

def isNullableType (type : String) : Bool :=
  "Nullable(".toList.isPrefixOf type.toList

def ColumnInfo.ofRow (row : Row) : ColumnInfo where
  name := Row.text row "name"
  type := Row.text row "type"
  nullable := isNullableType (Row.text row "type")
  defaultKind := Row.text? row "default_kind"
  defaultExpression := Row.text? row "default_expression"
  comment := Row.text? row "comment"

/-- The name of a listed table without the dialect's table prefix, which a table of another
owner does not have.
-/
def Dialect.ownName? (d : Dialect) (listed : String) : Option String :=
  if d.tablePrefix.toList.isPrefixOf listed.toList then
    some (String.ofList (listed.toList.drop d.tablePrefix.toList.length))
  else none

namespace Connection

/-- Sends SQL texts one after another. -/
def executeAll (c : Connection) : List String → Run Unit
  | [] => return
  | sql :: rest => do
    c.execute sql
    c.executeAll rest

def hasTable (c : Connection) (table : String) : Run Bool := do
  let rows ← c.runSql (c.dialect.compileTableExists table)
  let answer := rows.head?.bind fun row => (row.lookup "exists").bind Json.truth?
  return answer.getD false

def getTables (c : Connection) : Run (List TableInfo) := do
  let rows ← c.runSql c.dialect.compileTables
  return rows.map TableInfo.ofRow

def getColumns (c : Connection) (table : String) : Run (List ColumnInfo) := do
  let rows ← c.runSql (c.dialect.compileColumns table)
  return rows.map ColumnInfo.ofRow

/-- Creates a table, then its indexes. -/
def createTable (c : Connection) (b : Blueprint) : Run Unit :=
  c.executeAll (b.createStatements c.dialect)

/-- Adds a blueprint's columns and indexes to a table that exists. -/
def extendTable (c : Connection) (b : Blueprint) : Run Unit :=
  c.executeAll (b.alterStatements c.dialect)

def addColumn (c : Connection) (table : String) (column : ColumnSpec) : Run Unit :=
  c.execute ({ table : Blueprint }.compileAdd c.dialect column)

def createIndex (c : Connection) (table : String) (index : IndexSpec) : Run Unit :=
  c.execute ({ table : Blueprint }.compileIndex c.dialect index)

/-- Drops a table, which must exist. -/
def dropTable (c : Connection) (table : String) : Run Unit :=
  c.execute (c.dialect.compileDrop table)

/-- Drops a table if it exists. -/
def dropTableIfExists (c : Connection) (table : String) : Run Unit :=
  c.execute (c.dialect.compileDropIfExists table)

/-- Drops every listed table that has the connection's table prefix, and gives their number. -/
def dropAllTables (c : Connection) : Run Nat := do
  let tables ← c.getTables
  let names := tables.filterMap fun table => c.dialect.ownName? table.name
  c.executeAll (names.map c.dialect.compileDropIfExists)
  return names.length

end Connection

end ColumnStore
