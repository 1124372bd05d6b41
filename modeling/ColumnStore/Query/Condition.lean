import ColumnStore.Dialect
import ColumnStore.Query.Basic
import ColumnStore.Sql.Statement

/-! Conditions become statements: one text for each predicate, the connector words between them
and parentheses around a group. Only a raw condition can fail to compile.
-/

namespace ColumnStore

def Connector.keyword : Connector → String
  | and => "and"
  | or => "or"

def Operator.sql : Operator → String
  | eq => "="
  | notEq => "!="
  | lt => "<"
  | ltEq => "<="
  | gt => ">"
  | gtEq => ">="
  | like => "like"
  | notLike => "not like"
  | iLike => "ilike"

namespace Condition

/-- The word that negates a condition, with the blank after it. -/
def negation (negated : Bool) : String :=
  if negated then "not " else ""

def always : Statement :=
  .text "1 = 1"

def never : Statement :=
  .text "0 = 1"

/-- Membership in a list: no row is in the empty list, and every row is outside it. -/
def inList (column : String) (values : List Value) (negated : Bool) : Statement :=
  if values.isEmpty then if negated then always else never
  else .text (columnSql column ++ " " ++ negation negated ++ "in (")
    ++ .joined ", " (values.map .param) ++ .text ")"

mutual

def ofPredicate : Predicate → Except Error Statement
  | .basic column operator value =>
    .ok (.text (columnSql column ++ " " ++ operator.sql ++ " ") ++ .param value)
  | .columns first operator second =>
    .ok (.text (columnSql first ++ " " ++ operator.sql ++ " " ++ columnSql second))
  | .inList column values negated => .ok (inList column values negated)
  | .isNull column negated =>
    .ok (.text (columnSql column ++ " is " ++ negation negated ++ "null"))
  | .between column low high negated =>
    .ok (.text (columnSql column ++ " " ++ negation negated ++ "between ")
      ++ .param low ++ .text " and " ++ .param high)
  | .raw sql bindings => Statement.empty.pushRaw sql bindings
  | .nested [] => .ok always
  | .nested ((_, first) :: rest) => do
    return .text "(" ++ (← ofPredicate first) ++ (← linked rest) ++ .text ")"

/-- Conditions after a first one, each behind its connector. -/
def linked : List Where → Except Error Statement
  | [] => .ok .empty
  | (connector, predicate) :: rest => do
    return .text (" " ++ connector.keyword ++ " ") ++ (← ofPredicate predicate)
      ++ (← linked rest)

end

/-- A list of conditions; the connector of the first is not written. -/
def ofList : List Where → Except Error Statement
  | [] => .ok .empty
  | (_, first) :: rest => do
    return (← ofPredicate first) ++ (← linked rest)

/-- The where clause of a list of conditions, which is empty for the empty list. -/
def clause (wheres : List Where) : Except Error Statement :=
  if wheres.isEmpty then .ok .empty
  else return .text "where " ++ (← ofList wheres)

end Condition

end ColumnStore
