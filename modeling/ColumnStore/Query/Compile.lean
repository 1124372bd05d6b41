import ColumnStore.Query.Condition

/-! Queries become statements: reads, inserts and mutations.
The store has no joined or limited mutation, so those are refused; inserts always compile.
-/

namespace ColumnStore

def JoinKind.keyword : JoinKind → String
  | inner => "inner join"
  | left => "left join"
  | right => "right join"
  | full => "full join"
  | cross => "cross join"

def Direction.keyword : Direction → String
  | asc => "asc"
  | desc => "desc"

def TableRef.sql (d : Dialect) : TableRef → String
  | name s => d.tableSql s
  | raw sql => sql

def TableRef.fromClause (d : Dialect) (table : TableRef) : String :=
  "from " ++ table.sql d

/-- A join with its conditions. A cross join has none, and an empty list writes none. -/
def Join.compile (d : Dialect) (join : Join) : Except Error Statement :=
  let head := Statement.text (join.kind.keyword ++ " " ++ join.table.sql d)
  if join.kind = .cross ∨ join.on.isEmpty then .ok head
  else return head ++ .text " on " ++ (← Condition.ofList join.on)

namespace Query

def compileJoins (d : Dialect) : List Join → Except Error Statement
  | [] => .ok .empty
  | join :: rest => do
    return .text " " ++ (← join.compile d) ++ (← compileJoins d rest)

def compileSource (d : Dialect) (q : Query) : Except Error Statement := do
  let joins ← compileJoins d q.joins
  let wheres ← Condition.clause q.wheres
  return joins ++ (if wheres.isEmpty then .empty else .text " " ++ wheres)

def pagingClause (q : Query) : String :=
  let orders := q.orders.map fun (column, direction) =>
    columnSql column ++ " " ++ direction.keyword
  (if orders.isEmpty then "" else " order by " ++ ", ".intercalate orders)
    ++ (match q.limit with | none => "" | some n => " limit " ++ toString n.toNat)
    ++ (match q.offset with | none => "" | some n => " offset " ++ toString n.toNat)

/-- The selected columns; none stands for all. -/
def selectList (q : Query) : String :=
  if q.columns.isEmpty then "*" else columnListSql q.columns

def compileSelect (d : Dialect) (q : Query) : Except Error Statement := do
  return .text ("select " ++ q.selectList ++ " " ++ q.table.fromClause d)
    ++ (← q.compileSource d) ++ .text q.pagingClause

def compileCount (d : Dialect) (q : Query) : Except Error Statement := do
  return .text ("select count(*) as aggregate " ++ q.table.fromClause d)
    ++ (← q.compileSource d)

def row (record : Record) : Statement :=
  .text "(" ++ .joined ", " (record.values.map .param) ++ .text ")"

/-- Inserts a batch. The columns are those of the first record, and the values of the others
follow in their own order; a first record without columns, or none, inserts a default row.
-/
def compileInsert (d : Dialect) (q : Query) (values : InsertValues) : Statement :=
  let table := q.table.sql d
  match values.batch with
  | [] => .text ("insert into " ++ table ++ " default values")
  | first :: rest =>
    if first.isEmpty then .text ("insert into " ++ table ++ " default values")
    else
      .text ("insert into " ++ table ++ " (" ++ columnListSql first.columns ++ ") values ")
        ++ .joined ", " ((first :: rest).map row)

/-- The conditions of a mutation, which must have some. -/
def compileFilter (wheres : List Where) : Except Error Statement :=
  if wheres.isEmpty then .ok (.text "where 1") else Condition.clause wheres

def assignment (field : Field) : Statement :=
  .text (columnSql field.1 ++ " = ") ++ .param field.2

/-- Sets columns of the rows that meet the query's conditions. Offsets and orders do not count. -/
def compileUpdate (d : Dialect) (q : Query) (values : Record) : Except Error Statement :=
  if !q.joins.isEmpty then .error (.unsupported .updateWithJoins)
  else if q.limit.isSome then .error (.unsupported .updateWithLimit)
  else return .text ("alter table " ++ q.table.sql d ++ " update ")
    ++ .joined ", " (values.fields.map assignment) ++ .text " " ++ (← compileFilter q.wheres)

/-- Deletes the rows that meet the query's conditions. Offsets and orders do not count. -/
def compileDelete (d : Dialect) (q : Query) : Except Error Statement :=
  if !q.joins.isEmpty then .error (.unsupported .deleteWithJoins)
  else if q.limit.isSome then .error (.unsupported .deleteWithLimit)
  else return .text ("alter table " ++ q.table.sql d ++ " delete ")
    ++ (← compileFilter q.wheres)

/-- Empties the query's table, whatever its conditions. -/
def compileTruncate (d : Dialect) (q : Query) : Statement :=
  .text ("truncate " ++ q.table.sql d)

end Query

end ColumnStore
