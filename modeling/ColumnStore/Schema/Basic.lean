import ColumnStore.Value

/-! A blueprint describes a table before it exists: its columns and its indexes.
Column types are abstract here; the native names belong to compiling.
-/

namespace ColumnStore

/-- The abstract type of a column. -/
inductive ColumnType where
  | string
  | text
  | integer
  | bigInteger
  | bigIntegerUnsigned
  | smallInteger
  | tinyInteger
  | boolean
  | float
  | double
  | date
  | dateTime
  | timestamp
  | uuid
  /-- One of the allowed texts, in the order of their numbers. -/
  | enumeration (allowed : List String)
deriving DecidableEq, Repr

structure ColumnSpec where
  name : String
  type : ColumnType
  nullable : Bool := false
  default : Option Value := none
deriving Repr

structure IndexSpec where
  name : String
  columns : List String
  algorithm : Option String := none
deriving DecidableEq, Repr

/-- A table to create or to extend. -/
structure Blueprint where
  table : String
  columns : List ColumnSpec := []
  indexes : List IndexSpec := []
deriving Repr

namespace Blueprint

def addColumn (b : Blueprint) (column : ColumnSpec) : Blueprint :=
  { b with columns := b.columns ++ [column] }

def addIndex (b : Blueprint) (index : IndexSpec) : Blueprint :=
  { b with indexes := b.indexes ++ [index] }

end Blueprint

/-- The key column of a table that names its own key. -/
def ColumnSpec.id : ColumnSpec :=
  { name := "id", type := .bigIntegerUnsigned }

end ColumnStore
