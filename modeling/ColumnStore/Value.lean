import ColumnStore.Moment
import ColumnStore.Number.Shortest

/-! A value is what a statement binds: it ends up in SQL text as a literal.
The display text here is for logs and is no literal.
-/

namespace ColumnStore

/-- A value to bind. -/
inductive Value where
  | null
  | bool (b : Bool)
  | int (n : Int64)
  | uint (n : UInt64)
  | float (x : Binary64)
  | string (s : String)
  | moment (m : Moment)
  | array (items : List Value)
deriving Repr

namespace Value

def isNull : Value → Bool
  | null => true
  | _ => false

/-- The text of a float: the shortest positional digits, or one of three names. -/
def floatText (nan inf minusInf : String) (x : Binary64) : String :=
  if x.isNaN then nan
  else if x.isInfinite then if x.isNegative then minusInf else inf
  else x.positional

/-- The items between brackets, a comma and a space between two. -/
def bracketed (items : List String) : String :=
  "[" ++ ", ".intercalate items ++ "]"

mutual

/-- The plain text of a value. Strings are not quoted, and moments have milliseconds. -/
def display : Value → String
  | null => "NULL"
  | bool b => toString b
  | int n => toString n.toInt
  | uint n => toString n.toNat
  | float x => floatText "NaN" "inf" "-inf" x
  | string s => s
  | moment m => m.milliseconds
  | array items => bracketed (displayAll items)

def displayAll : List Value → List String
  | [] => []
  | v :: rest => display v :: displayAll rest

end

end Value

end ColumnStore
