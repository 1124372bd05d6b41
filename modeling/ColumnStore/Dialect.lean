import ColumnStore.Escaping
import ColumnStore.Identifier.Quoting

/-! A dialect is what a connection decides about the SQL text it sends: the prefix of its tables,
the database that introspection asks about, and the escaping of its literals.
-/

namespace ColumnStore

/-- How names and literals are written, and where tables are looked up. -/
structure Dialect where
  /-- Goes before the name of every table. -/
  tablePrefix : String := ""
  database : String := "default"
  escaping : Escaping := .native
deriving DecidableEq, Repr

def columnSql (name : String) : String :=
  String.ofList (Identifier.column name.toList)

def columnListSql (names : List String) : String :=
  ", ".intercalate (names.map columnSql)

def Dialect.tableSql (d : Dialect) (name : String) : String :=
  String.ofList (Identifier.table d.tablePrefix.toList name.toList)

end ColumnStore
