import ColumnStore.Json.Basic
import ColumnStore.Number.Shortest

/-! JSON text is written compactly, or over several lines with two blanks for each level.
Doubles have the shortest digits, positional from 0.00001 up to 10 to the 16th.
-/

namespace ColumnStore.Json

def controlEscape (c : Char) : List Char :=
  let digits := Nat.toDigits 16 c.toNat
  ['\\', 'u', '0', '0'] ++ List.replicate (2 - digits.length) '0' ++ digits

/-- The characters that stand for one character in a string. -/
def escapeChar : Char → List Char
  | '"' => ['\\', '"']
  | '\\' => ['\\', '\\']
  | '\x08' => ['\\', 'b']
  | '\x0C' => ['\\', 'f']
  | '\n' => ['\\', 'n']
  | '\r' => ['\\', 'r']
  | '\t' => ['\\', 't']
  | c => if c.toNat < 0x20 then controlEscape c else [c]

def quoted (s : String) : String :=
  String.ofList ('"' :: s.toList.flatMap escapeChar ++ ['"'])

/-- The exponent form of digits whose point stands after the first. -/
def exponentForm (digits : List Char) (exponent : Int) : String :=
  let point := match digits with
    | first :: second :: rest => first :: '.' :: second :: rest
    | digits => digits
  String.ofList point ++ "e" ++ (if exponent < 0 then "-" else "+") ++ toString exponent.natAbs

/-- The text of a magnitude: positional with at least one digit after the point, or with an
exponent when it is very small or very large.
-/
def decimalText (d : Decimal) : String :=
  let digits := Nat.toDigits 10 d.digits
  let point : Int := digits.length + d.exponent
  if d.digits = 0 then "0.0"
  else if -5 < point ∧ point ≤ 16 then
    if d.exponent < 0 then d.positional else d.positional ++ ".0"
  else exponentForm digits (point - 1)

/-- The text of a finite double; of two equally near decimals the even one is written. -/
def floatText (x : Binary64) : String :=
  (if x.isNegative then "-" else "") ++ decimalText (Shortest.decimal .toEven x)

def member (separator : String) (name text : String) : String :=
  quoted name ++ separator ++ text

mutual

/-- The text of a value without any blank between its parts. -/
def compact : Json → String
  | null => "null"
  | bool b => toString b
  | integer n => toString n
  | float x => floatText x
  | string s => quoted s
  | array items => "[" ++ ",".intercalate (compactItems items) ++ "]"
  | object members => "\x7b" ++ ",".intercalate (compactMembers members) ++ "\x7d"

def compactItems : List Json → List String
  | [] => []
  | v :: rest => compact v :: compactItems rest

def compactMembers : List (String × Json) → List String
  | [] => []
  | (name, v) :: rest => member ":" name (compact v) :: compactMembers rest

end

/-- Parts on lines of their own between brackets, one level deeper than the brackets. -/
def block (indent : String) (opening closing : String) (parts : List String) : String :=
  if parts.isEmpty then opening ++ closing
  else
    opening ++ "\n" ++ indent ++ "  " ++ (",\n" ++ indent ++ "  ").intercalate parts
      ++ "\n" ++ indent ++ closing

mutual

def pretty (indent : String) : Json → String
  | array items => block indent "[" "]" (prettyItems (indent ++ "  ") items)
  | object members => block indent "\x7b" "\x7d" (prettyMembers (indent ++ "  ") members)
  | null => "null"
  | bool b => toString b
  | integer n => toString n
  | float x => floatText x
  | string s => quoted s

def prettyItems (indent : String) : List Json → List String
  | [] => []
  | v :: rest => pretty indent v :: prettyItems indent rest

def prettyMembers (indent : String) : List (String × Json) → List String
  | [] => []
  | (name, v) :: rest => member ": " name (pretty indent v) :: prettyMembers indent rest

end

end ColumnStore.Json
