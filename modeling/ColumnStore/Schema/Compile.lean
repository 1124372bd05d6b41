import ColumnStore.Dialect
import ColumnStore.Schema.Basic

/-! Blueprints become SQL text: statements that create, extend and drop tables, and queries that
ask the store what it holds. Every table is ordered by a column named `id`, which is added with
a time column when the blueprint does not start with it.
-/

namespace ColumnStore

/-- The native type of an enumeration numbers its texts from one. -/
def enumerationSql (e : Escaping) (allowed : List String) : String :=
  let pairs := allowed.zipIdx.map fun (text, i) => e.quoteText text ++ " = " ++ toString (i + 1)
  "Enum(" ++ ", ".intercalate pairs ++ ")"

/-- The native type of a column, its nullability apart. -/
def ColumnType.sql (e : Escaping) : ColumnType → String
  | string | text => "String"
  | integer | bigInteger | bigIntegerUnsigned => "UInt64"
  | smallInteger => "Int16"
  | tinyInteger => "Int8"
  | boolean => "Bool"
  | float => "Float32"
  | double => "Float64"
  | date => "Date"
  | dateTime => "DateTime"
  | timestamp => "DateTime64(3)"
  | uuid => "UUID"
  | enumeration allowed => enumerationSql e allowed

def ColumnSpec.typeSql (e : Escaping) (column : ColumnSpec) : String :=
  if column.nullable then "Nullable(" ++ column.type.sql e ++ ")" else column.type.sql e

def ColumnSpec.sql (e : Escaping) (column : ColumnSpec) : String :=
  columnSql column.name ++ " " ++ column.typeSql e
    ++ (match column.default with | none => "" | some value => " DEFAULT " ++ e.quote value)

namespace Blueprint

def columnsSql (d : Dialect) (b : Blueprint) : List String :=
  b.columns.map (·.sql d.escaping)

/-- The columns that are added when the first declared one is not the key. -/
def addedKeyColumns : String :=
  "id UInt64 not null, timestamp DateTime64(3)"

def startsWithKey (b : Blueprint) : Bool :=
  b.columns.head?.any (·.name = "id")

def declarations (d : Dialect) (b : Blueprint) : List String :=
  if b.startsWithKey then b.columnsSql d else addedKeyColumns :: b.columnsSql d

def orderingKey (b : Blueprint) : String :=
  if b.startsWithKey then columnSql "id" else "id"

/-- Creates the table unless it exists, ordered by its key. -/
def compileCreate (d : Dialect) (b : Blueprint) : String :=
  "create table if not exists " ++ d.tableSql b.table ++ " ("
    ++ ", ".intercalate (b.declarations d) ++ ") ENGINE = MergeTree() ORDER BY ("
    ++ b.orderingKey ++ ") SETTINGS index_granularity = 8192"

def compileAdd (d : Dialect) (b : Blueprint) (column : ColumnSpec) : String :=
  "alter table " ++ d.tableSql b.table ++ " add column " ++ column.sql d.escaping

def compileIndex (d : Dialect) (b : Blueprint) (index : IndexSpec) : String :=
  "create index " ++ columnSql index.name ++ " on " ++ d.tableSql b.table
    ++ (match index.algorithm with | none => "" | some algorithm => " using " ++ algorithm)
    ++ " (" ++ columnListSql index.columns ++ ")"

/-- The statement that creates the table, then one for each index. -/
def createStatements (d : Dialect) (b : Blueprint) : List String :=
  b.compileCreate d :: b.indexes.map (b.compileIndex d)

/-- One statement for each column to add, then one for each index. -/
def alterStatements (d : Dialect) (b : Blueprint) : List String :=
  b.columns.map (b.compileAdd d) ++ b.indexes.map (b.compileIndex d)

end Blueprint

namespace Dialect

def compileDrop (d : Dialect) (table : String) : String :=
  "drop table " ++ d.tableSql table

def compileDropIfExists (d : Dialect) (table : String) : String :=
  "drop table if exists " ++ d.tableSql table

def compileDropAll (d : Dialect) (tables : List String) : String :=
  String.join (tables.map fun table => d.compileDropIfExists table ++ ";")

/-- The name under which introspection looks for a table. -/
def storedName (d : Dialect) (table : String) : String :=
  d.tablePrefix ++ table

def compileTableExists (d : Dialect) (table : String) : String :=
  "SELECT COALESCE((SELECT true AS \"exists\" FROM system.tables WHERE database = "
    ++ d.escaping.quoteText d.database ++ " AND name = "
    ++ d.escaping.quoteText (d.storedName table)
    ++ " LIMIT 1), false) AS \"exists\""

def compileTables (d : Dialect) : String :=
  "SELECT name, database AS schema, total_bytes AS size, comment AS comments"
    ++ " FROM system.tables WHERE database = " ++ d.escaping.quoteText d.database

def compileColumns (d : Dialect) (table : String) : String :=
  "SELECT name, type, default_kind, default_expression, comment"
    ++ " FROM system.columns WHERE database = " ++ d.escaping.quoteText d.database
    ++ " AND table = " ++ d.escaping.quoteText (d.storedName table) ++ " ORDER BY position"

end Dialect

end ColumnStore
