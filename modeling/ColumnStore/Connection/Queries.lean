import ColumnStore.Connection.Basic
import ColumnStore.Json.Writer
import ColumnStore.Query.Compile

/-! Queries over a connection: reads, inserts and mutations, each compiled and sent.
A query that does not compile sends nothing.
-/

namespace ColumnStore

/-- The rows to insert in the order in which they are written: the columns of a batch are sorted,
those of a single record keep their order.
-/
def InsertValues.ordered : InsertValues → List Record
  | one record => (one record).batch
  | many records => records.map Record.sorted

namespace Connection

def select (c : Connection) (q : Query) : Run (List Row) := do
  c.run (← q.compileSelect c.dialect)

/-- The rows of raw SQL text with a value for each of its placeholders. -/
def selectRaw (c : Connection) (sql : String) (bindings : List Value) : Run (List Row) := do
  c.run (← Statement.empty.pushRaw sql bindings)

/-- The number of rows that the first value of a result stands for. -/
def countOf (rows : List Row) : Except Error UInt64 :=
  match Row.firstValue? rows with
  | none => .error (.malformedResponse "count query returned no rows")
  | some v => match v.unsigned? with
    | none => .error (.malformedResponse ("count is not an unsigned integer: " ++ v.compact))
    | some n => .ok n

def count (c : Connection) (q : Query) : Run UInt64 := do
  let rows ← c.run (← q.compileCount c.dialect)
  countOf rows

/-- Inserts a record or a batch, numbered from the count of the query; without records nothing is
sent. That is a success as well, and like any other it has nothing more to tell.
-/
def insert (c : Connection) (q : Query) (values : InsertValues) : Run Unit := do
  let records := values.ordered
  if records.isEmpty then return
  let base ← c.count q
  let numbered := Numbering.stamp c.numberingColumn base records
  c.execute (c.render (q.compileInsert c.dialect (.many numbered)))

/-- The record with an id in first place, if a column for it is named. -/
def identified (record : Record) (column : Option String) (id : UInt64) : Record :=
  match column with
  | none => record
  | some column => record.putFirst column (.uint id)

/-- Inserts one record under a new id, which is used up even when the insert fails. -/
def insertGetId (c : Connection) (q : Query) (record : Record) (column : Option String)
    : Run UInt64 := do
  let id ← takeId
  c.execute (c.render (q.compileInsert c.dialect (.one (identified record column id))))
  return id

def update (c : Connection) (q : Query) (values : Record) : Run (List Row) := do
  c.run (← q.compileUpdate c.dialect values)

def delete (c : Connection) (q : Query) : Run (List Row) := do
  c.run (← q.compileDelete c.dialect)

def truncate (c : Connection) (q : Query) : Run Unit :=
  c.execute (c.render (q.compileTruncate c.dialect))

end Connection

end ColumnStore
