import ColumnStore.Record

/-! A query describes what is asked of a table: columns, joins, conditions, order and paging.
It has no SQL text; compiling it is another module's work.
-/

namespace ColumnStore

/-- A table in a from clause, a join or a mutation. -/
inductive TableRef where
  /-- A table name, with an alias or without. -/
  | name (s : String)
  /-- An expression that is passed on as it stands. -/
  | raw (sql : String)
deriving DecidableEq, Repr

/-- The word between a condition and the one before it. -/
inductive Connector where
  | and
  | or
deriving DecidableEq, Repr

/-- A comparison of a column with a value or with another column. -/
inductive Operator where
  | eq
  | notEq
  | lt
  | ltEq
  | gt
  | gtEq
  | like
  | notLike
  | iLike
deriving DecidableEq, Repr

/-- One condition on a row. -/
inductive Predicate where
  | basic (column : String) (operator : Operator) (value : Value)
  /-- Compares two columns. -/
  | columns (first : String) (operator : Operator) (second : String)
  | inList (column : String) (values : List Value) (negated : Bool)
  | isNull (column : String) (negated : Bool)
  | between (column : String) (low high : Value) (negated : Bool)
  /-- Raw text with a value for each of its placeholders. -/
  | raw (sql : String) (bindings : List Value)
  /-- A group in parentheses. -/
  | nested (entries : List (Connector × Predicate))
deriving Repr

/-- A condition and the word that joins it to the one before; the first word is not written. -/
abbrev Where := Connector × Predicate

/-- Which rows of the two tables a join keeps. -/
inductive JoinKind where
  | inner
  | left
  | right
  | full
  | cross
deriving DecidableEq, Repr

structure Join where
  kind : JoinKind
  table : TableRef
  on : List Where
deriving Repr

inductive Direction where
  | asc
  | desc
deriving DecidableEq, Repr

/-- What is asked of a table. -/
structure Query where
  table : TableRef
  /-- The selected columns; none stands for all. -/
  columns : List String := []
  wheres : List Where := []
  joins : List Join := []
  orders : List (String × Direction) := []
  limit : Option UInt64 := none
  offset : Option UInt64 := none
deriving Repr

namespace Query

def addWhere (q : Query) (connector : Connector) (predicate : Predicate) : Query :=
  { q with wheres := q.wheres ++ [(connector, predicate)] }

def addJoin (q : Query) (join : Join) : Query :=
  { q with joins := q.joins ++ [join] }

/-- The query with one more inner join on two columns. -/
def joinOn (q : Query) (table : TableRef) (first : String) (operator : Operator)
    (second : String) : Query :=
  q.addJoin ⟨.inner, table, [(.and, .columns first operator second)]⟩

def orderBy (q : Query) (column : String) (direction : Direction) : Query :=
  { q with orders := q.orders ++ [(column, direction)] }

end Query

/-- Rows to insert: one record or a batch. -/
inductive InsertValues where
  | one (record : Record)
  | many (records : List Record)

/-- The rows as a batch; one empty record is an empty batch. -/
def InsertValues.batch : InsertValues → List Record
  | one record => if record.isEmpty then [] else [record]
  | many records => records

end ColumnStore
