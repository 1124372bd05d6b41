import ColumnStore.Query.Compile

/-! What of a query enters SQL text other than as a literal: its names, and raw text.
Names are quoted and raw text is not, so statements about quoting ask that there be none of the
latter.
-/

namespace ColumnStore

mutual

/-- The column names of a condition, those of a group included. -/
def Predicate.names : Predicate → List String
  | .basic column _ _ => [column]
  | .columns first _ second => [first, second]
  | .inList column _ _ => [column]
  | .isNull column _ => [column]
  | .between column _ _ _ => [column]
  | .raw _ _ => []
  | .nested entries => Condition.names entries

def Condition.names : List Where → List String
  | [] => []
  | (_, predicate) :: rest => predicate.names ++ Condition.names rest

end

mutual

/-- The raw texts of a condition with their values, those of a group included. -/
def Predicate.raws : Predicate → List (String × List Value)
  | .raw sql bindings => [(sql, bindings)]
  | .nested entries => Condition.raws entries
  | _ => []

def Condition.raws : List Where → List (String × List Value)
  | [] => []
  | (_, predicate) :: rest => predicate.raws ++ Condition.raws rest

end

def TableRef.IsNamed : TableRef → Prop
  | name _ => True
  | raw _ => False

instance : DecidablePred TableRef.IsNamed
  | .name _ => isTrue trivial
  | .raw _ => isFalse id

def TableRef.names : TableRef → List String
  | name s => [s]
  | raw _ => []

namespace Query

/-- The tables of a query: its own and those it joins. -/
def tables (q : Query) : List TableRef :=
  q.table :: q.joins.map (·.table)

/-- All names of a query: tables, columns, orders and the columns of conditions. Aliases are
parts of names.
-/
def names (q : Query) : List String :=
  q.tables.flatMap TableRef.names ++ q.columns ++ q.orders.map (·.1)
    ++ q.joins.flatMap (fun join => Condition.names join.on) ++ Condition.names q.wheres

/-- The raw texts of a query with their values, joins first. -/
def raws (q : Query) : List (String × List Value) :=
  q.joins.flatMap (fun join => Condition.raws join.on) ++ Condition.raws q.wheres

/-- The statements that a query compiles to: reads, the insert of some values, and the mutations,
of which an update sets the columns of a record.
-/
inductive Compiles (d : Dialect) (q : Query) (values : InsertValues) (record : Record)
    : Statement → Prop
  | select {s} (ok : q.compileSelect d = .ok s) : Compiles d q values record s
  | count {s} (ok : q.compileCount d = .ok s) : Compiles d q values record s
  | insert : Compiles d q values record (q.compileInsert d values)
  | update {s} (ok : q.compileUpdate d record = .ok s) : Compiles d q values record s
  | delete {s} (ok : q.compileDelete d = .ok s) : Compiles d q values record s

end Query

end ColumnStore
