/-! A TOML document is a table of named values, and tables remember how they came about.
A table that a header opened, one that only a longer header or a dotted key implies, and one
that was written in line may each be extended by other means.
-/

namespace ColumnStore

/-- How a table came about. -/
inductive Toml.Origin where
  /-- Its own header, or the document itself. -/
  | header
  /-- The header of a table inside it. -/
  | implied
  /-- A dotted key. -/
  | dotted
  /-- Braces, which hold all of it. -/
  | inLine
deriving DecidableEq, Repr

inductive Toml where
  | string (s : String)
  | integer (n : Int)
  | bool (b : Bool)
  /-- A float, of which only the form is read. -/
  | float
  /-- A date, a time, or both, of which only the form is read. -/
  | dateTime
  | array (items : List Toml)
  | table (origin : Toml.Origin) (entries : List (String × Toml))
  /-- The tables of an array of tables. -/
  | tables (elements : List Toml)
deriving Repr

end ColumnStore
