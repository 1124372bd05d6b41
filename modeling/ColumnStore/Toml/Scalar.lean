import ColumnStore.Number.Binary64
import ColumnStore.Number.Digits
import ColumnStore.Text.Trimming
import ColumnStore.Toml.Basic

/-! A scalar that is not quoted is recognised as a whole: a truth value, an integer in one of four
bases, a float, or a date and time.
-/

namespace ColumnStore.Toml

/-- The digits of a text in which one underscore may stand between two digits. -/
def groupedDigits? (isDigit : Char → Bool) : List Char → Option (List Char)
  | [] => none
  | [c] => if isDigit c then some [c] else none
  | c :: '_' :: rest =>
    if isDigit c then (groupedDigits? isDigit rest).map (c :: ·) else none
  | c :: rest => if isDigit c then (groupedDigits? isDigit rest).map (c :: ·) else none

/-- The integer, if it fits 64 bits with a sign. -/
def bounded? (n : Int) : Option Toml :=
  if Int64.minValue.toInt ≤ n ∧ n ≤ Int64.maxValue.toInt then some (.integer n) else none

/-- The digits of a decimal integer, which have no leading zero. -/
def decimalDigits? (cs : List Char) : Option (List Char) :=
  match groupedDigits? Char.isDigit cs with
  | some digits => if digits.head? = some '0' ∧ digits.length ≠ 1 then none else some digits
  | none => none

/-- An integer in base ten with a sign or without, or in another base without. -/
def integer? : List Char → Option Toml
  | '0' :: 'x' :: rest =>
    (groupedDigits? (isDigitOf 16) rest).bind fun ds => bounded? (digitsValue 16 ds)
  | '0' :: 'o' :: rest =>
    (groupedDigits? (isDigitOf 8) rest).bind fun ds => bounded? (digitsValue 8 ds)
  | '0' :: 'b' :: rest =>
    (groupedDigits? (isDigitOf 2) rest).bind fun ds => bounded? (digitsValue 2 ds)
  | cs =>
    let (negative, digits) := splitSign cs
    (decimalDigits? digits).bind fun ds =>
      bounded? (signed negative (digitsValue 10 ds))

def exponent? (cs : List Char) : Option Int :=
  let (negative, digits) := splitSign cs
  (groupedDigits? Char.isDigit digits).map fun ds =>
    signed negative (digitsValue 10 ds)

/-- The digits of a mantissa and how many of them stand after the point. -/
def mantissa? (cs : List Char) : Option (List Char × Nat) :=
  match Text.cutFirst? (· = '.') cs with
  | none => (decimalDigits? cs).map fun ds => (ds, 0)
  | some (whole, fraction) => do
    let whole ← decimalDigits? whole
    let fraction ← groupedDigits? Char.isDigit fraction
    return (whole ++ fraction, fraction.length)

/-- The digits and the exponent of a float without sign, which has a point or an exponent. -/
def plainFloat? (cs : List Char) : Option (Nat × Int) :=
  match Text.cutFirst? (fun c => c = 'e' ∨ c = 'E') cs with
  | some (mantissa, exponent) => do
    let (digits, places) ← mantissa? mantissa
    return (digitsValue 10 digits, (← exponent? exponent) - places)
  | none =>
    if cs.contains '.' then
      (mantissa? cs).map fun (digits, places) => (digitsValue 10 digits, -(places : Int))
    else none

/-- Whether a text is a float. One that is too large for a double is refused unless it is
negative.
-/
def isFloat (cs : List Char) : Bool :=
  let (negative, body) := splitSign cs
  body = ['i', 'n', 'f'] || body = ['n', 'a', 'n'] || (match plainFloat? body with
    | some (digits, exponent) =>
      negative || !(Binary64.ofDecimal negative digits exponent).isInfinite
    | none => false)

/-- The number of digits alone, if there are as many as asked for. -/
def fixed? (width : Nat) (cs : List Char) : Option Nat :=
  if cs.length = width ∧ cs.all Char.isDigit then some (digitsValue 10 cs) else none

def daysInMonth (year month : Nat) : Nat :=
  if month = 2 then
    if year % 4 = 0 ∧ (year % 100 ≠ 0 ∨ year % 400 = 0) then 29 else 28
  else if month = 4 ∨ month = 6 ∨ month = 9 ∨ month = 11 then 30
  else 31

def isDate (cs : List Char) : Bool :=
  match cs.splitOn '-' with
  | [y, m, d] => match fixed? 4 y, fixed? 2 m, fixed? 2 d with
    | some year, some month, some day =>
      1 ≤ month && month ≤ 12 && 1 ≤ day && day ≤ daysInMonth year month
    | _, _, _ => false
  | _ => false

def isTime (cs : List Char) : Bool :=
  let (clock, fractionFits) := match Text.cutFirst? (· = '.') cs with
    | some (clock, fraction) => (clock, !fraction.isEmpty && fraction.all Char.isDigit)
    | none => (cs, true)
  match clock.splitOn ':' with
  | [h, m, s] => match fixed? 2 h, fixed? 2 m, fixed? 2 s with
    | some hour, some minute, some second =>
      fractionFits && hour ≤ 23 && minute ≤ 59 && second ≤ 60
    | _, _, _ => false
  | _ => false

/-- Whether a text is the distance from universal time after its sign. -/
def isZoneOffset (cs : List Char) : Bool :=
  match cs.splitOn ':' with
  | [h, m] => match fixed? 2 h, fixed? 2 m with
    | some hour, some minute => hour ≤ 23 && minute ≤ 59
    | _, _ => false
  | _ => false

def isZonedTime (cs : List Char) : Bool :=
  let isMark (c : Char) : Bool := c = 'Z' ∨ c = 'z' ∨ c = '+' ∨ c = '-'
  isTime (cs.takeWhile fun c => !isMark c) && (match cs.dropWhile fun c => !isMark c with
    | [] => true
    | c :: zone => if c = 'Z' ∨ c = 'z' then zone.isEmpty else isZoneOffset zone)

def isDateTime (cs : List Char) : Bool :=
  isTime cs || isDate cs
    || (isDate (cs.take 10) && (match cs.drop 10 with
      | separator :: time =>
        (separator = 'T' || separator = 't' || separator = ' ') && isZonedTime time
      | [] => false))

def scalar? (cs : List Char) : Option Toml :=
  if cs = "true".toList then some (.bool true)
  else if cs = "false".toList then some (.bool false)
  else match integer? cs with
    | some n => some n
    | none =>
      if isFloat cs then some .float
      else if isDateTime cs then some .dateTime
      else none

/-- The characters that can belong to such a scalar. -/
def isScalarChar (c : Char) : Bool :=
  c.isAlphanum || c = '+' || c = '-' || c = '_' || c = '.' || c = ':'

/-- The characters of the scalar at the start of a text. One blank belongs to it when it parts a
date from a time.
-/
def takeScalar (cs : List Char) : List Char × List Char :=
  let head := cs.takeWhile isScalarChar
  let rest := cs.dropWhile isScalarChar
  match rest with
  | ' ' :: after =>
    let time := after.takeWhile isScalarChar
    if isDate head && isZonedTime time then
      (head ++ ' ' :: time, after.dropWhile isScalarChar)
    else (head, rest)
  | rest => (head, rest)

end ColumnStore.Toml
