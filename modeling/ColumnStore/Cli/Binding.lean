import ColumnStore.Number.Digits
import ColumnStore.Value

/-! A binding on the command line becomes a value: the word null, an integer, a float, or text.
Integers keep their value as long as it fits 64 bits, and are floats beyond.
-/

namespace ColumnStore.Binding

/-- Whether a text is a word, whatever the case of its letters. -/
def isWord (word : String) (cs : List Char) : Bool :=
  cs.map Char.toLower = word.toList

def isDigits (cs : List Char) : Bool :=
  !cs.isEmpty && cs.all Char.isDigit

/-- The integer of a text, if it fits 64 bits. -/
def integer? (cs : List Char) : Option Int64 :=
  let (negative, digits) := splitSign cs
  let n := signed negative (digitsValue 10 digits)
  if isDigits digits ∧ Int64.minValue.toInt ≤ n ∧ n ≤ Int64.maxValue.toInt then
    some (Int64.ofInt n)
  else none

/-- The digits of a text with a point or without, and how many stand after the point. Digits may
be missing on one side of the point.
-/
def mantissa? (cs : List Char) : Option (List Char × Nat) :=
  let whole := cs.takeWhile Char.isDigit
  let fraction? := match cs.dropWhile Char.isDigit with
    | [] => some []
    | '.' :: fraction => if fraction.all Char.isDigit then some fraction else none
    | _ => none
  match fraction? with
  | none => none
  | some fraction =>
    if (whole ++ fraction).isEmpty then none else some (whole ++ fraction, fraction.length)

/-- The exponent of a text that is empty or starts with the letter e. -/
def exponent? : List Char → Option Int
  | [] => some 0
  | e :: rest =>
    let (negative, digits) := splitSign rest
    if (e = 'e' ∨ e = 'E') ∧ isDigits digits then some (signed negative (digitsValue 10 digits))
    else none

/-- The number of a decimal numeral without sign, by its digits and a power of ten. -/
def decimal? (cs : List Char) : Option (Nat × Int) := do
  let isExponentMark (c : Char) : Bool := c = 'e' ∨ c = 'E'
  let (digits, places) ← mantissa? (cs.takeWhile fun c => !isExponentMark c)
  let exponent ← exponent? (cs.dropWhile fun c => !isExponentMark c)
  return (digitsValue 10 digits, exponent - places)

/-- The float of a text: the nearest to a decimal numeral, an infinity, or no number. -/
def float? (cs : List Char) : Option Binary64 :=
  let (negative, body) := splitSign cs
  if isWord "inf" body ∨ isWord "infinity" body then some (.infinity negative)
  else if isWord "nan" body then some .notANumber
  else (decimal? body).map fun (digits, exponent) => .ofDecimal negative digits exponent

def parse (text : String) : Value :=
  let cs := text.toList
  if isWord "null" cs then .null
  else match integer? cs with
    | some n => .int n
    | none => match float? cs with
      | some x => .float x
      | none => .string text

end ColumnStore.Binding
