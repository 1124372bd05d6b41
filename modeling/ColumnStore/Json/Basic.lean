import ColumnStore.Keyed
import ColumnStore.Number.Binary64
import ColumnStore.Number.Digits

/-! A JSON value keeps the members of an object in the order in which they were read.
Integers that fit 64 bits stay exact, and every other number is a double.
-/

namespace ColumnStore

inductive Json where
  | null
  | bool (b : Bool)
  /-- An integer from the least signed to the greatest unsigned 64-bit number. -/
  | integer (n : Int)
  | float (x : Binary64)
  | string (s : String)
  | array (items : List Json)
  | object (members : List (String × Json))
deriving Repr

/-- One row of a result: column names and values, in the order of the server. -/
abbrev Row := List (String × Json)

namespace Json

/-- The unsigned 64-bit number that the digits of a string stand for; a plus sign may come first.
-/
def numeralValue? (s : String) : Option UInt64 :=
  let digits := match s.toList with
    | '+' :: rest => rest
    | cs => cs
  if digits ≠ [] ∧ digits.all Char.isDigit ∧ digitsValue 10 digits < UInt64.size then
    some (UInt64.ofNat (digitsValue 10 digits))
  else none

/-- The unsigned number that a value stands for: a number, or a string of digits, as 64-bit
columns arrive as strings.
-/
def unsigned? : Json → Option UInt64
  | integer n => if 0 ≤ n ∧ n < UInt64.size then some (UInt64.ofNat n.toNat) else none
  | string s => numeralValue? s
  | _ => none

/-- The truth value that a value stands for: a truth value, an unsigned number, or one of four
words.
-/
def truth? : Json → Option Bool
  | bool b => some b
  | integer n => if 0 ≤ n then some (n ≠ 0) else none
  | string s =>
    if s = "true" ∨ s = "1" then some true
    else if s = "false" ∨ s = "0" then some false
    else none
  | _ => none

end Json

end ColumnStore
