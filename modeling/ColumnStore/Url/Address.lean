import ColumnStore.Error
import ColumnStore.Number.Digits

/-! A host may be a numeric address: four numbers with dots, of which the last may stand for
several bytes, or eight groups of hexadecimal digits with colons. Both are written in one form.
-/

namespace ColumnStore.Url

/-- The digits and the base of a number that may be octal or hexadecimal. -/
def numberBase (cs : List Char) : Nat × List Char :=
  match cs with
  | '0' :: 'x' :: rest => (16, rest)
  | '0' :: 'X' :: rest => (16, rest)
  | '0' :: c :: rest => (8, c :: rest)
  | cs => (10, cs)

/-- The number of a part of an address; the mark of a base alone stands for zero. -/
def ipv4Number? (cs : List Char) : Option Nat :=
  if cs.isEmpty then none
  else
    let (base, digits) := numberBase cs
    if digits.all (isDigitOf base) then some (digitsValue base digits) else none

def hostParts (cs : List Char) : List (List Char) :=
  let parts := cs.splitOn '.'
  if 1 < parts.length ∧ parts.getLast? = some [] then parts.dropLast else parts

/-- Whether a host must be an address: its last part is a number or looks like one. -/
def endsInNumber (cs : List Char) : Bool :=
  match (hostParts cs).getLast? with
  | none => false
  | some last => (!last.isEmpty && last.all Char.isDigit) || (ipv4Number? last).isSome

/-- The 32-bit number of the parts of an address: all but the last are bytes, and the last one
fills the bytes that remain.
-/
def ipv4Value? (numbers : List Nat) : Option Nat :=
  match numbers.getLast? with
  | none => none
  | some last =>
    let bytes := numbers.dropLast
    if bytes.length ≤ 3 ∧ bytes.all (· < 256) ∧ last < Nat.pow 256 (4 - bytes.length) then
      some (bytes.zipIdx.foldl (fun n (b, i) => n + b * Nat.pow 256 (3 - i)) last)
    else none

def ipv4Text (n : Nat) : String :=
  ".".intercalate ([n / 0x1000000, n / 0x10000 % 256, n / 0x100 % 256, n % 256].map toString)

def ipv4? (cs : List Char) : Option Nat :=
  ((hostParts cs).mapM ipv4Number?).bind ipv4Value?

def ipv6Group? (cs : List Char) : Option Nat :=
  if 1 ≤ cs.length ∧ cs.length ≤ 4 ∧ cs.all (isDigitOf 16) then some (digitsValue 16 cs)
  else none

def decimalByte? (cs : List Char) : Option Nat :=
  if !cs.isEmpty ∧ cs.all Char.isDigit ∧ (cs.head? ≠ some '0' ∨ cs.length = 1)
      ∧ cs.length ≤ 3 ∧ digitsValue 10 cs < 256 then
    some (digitsValue 10 cs)
  else none

/-- The two groups of four bytes with dots. -/
def dottedGroups? (cs : List Char) : Option (List Nat) := do
  match ← (cs.splitOn '.').mapM decimalByte? with
  | [a, b, c, d] => some [a * 256 + b, c * 256 + d]
  | _ => none

/-- The groups of a text with colons; only the last may have dots, if `dots` are allowed. -/
def ipv6Groups? (dots : Bool) : List (List Char) → Option (List Nat)
  | [] => some []
  | [last] =>
    match ipv6Group? last with
    | some n => some [n]
    | none => if dots then dottedGroups? last else none
  | group :: rest => do
    return (← ipv6Group? group) :: (← ipv6Groups? dots rest)

/-- The parts of a text between colons, none for the empty text. -/
def colonParts (cs : List Char) : List (List Char) :=
  if cs.isEmpty then [] else cs.splitOn ':'

/-- The text before the first pair of colons and the text after it, if there is one. -/
def splitGap? : List Char → Option (List Char × List Char)
  | ':' :: ':' :: rest => some ([], rest)
  | c :: rest => (splitGap? rest).map fun (left, right) => (c :: left, right)
  | [] => none

def ipv6? (cs : List Char) : Option (List Nat) := do
  match splitGap? cs with
  | none =>
    let groups ← ipv6Groups? true (colonParts cs)
    if groups.length = 8 then some groups else none
  | some (left, right) =>
    let left ← ipv6Groups? false (colonParts left)
    let right ← ipv6Groups? true (colonParts right)
    if left.length + right.length ≤ 7 then
      some (left ++ List.replicate (8 - left.length - right.length) 0 ++ right)
    else none

/-- The length of the run of zeros at the start. -/
def zeroRun (groups : List Nat) : Nat :=
  (groups.takeWhile (· = 0)).length

/-- The place and length of the first of the longest runs of zeros. -/
def longestZeros (groups : List Nat) : Nat × Nat :=
  (List.range groups.length).foldl
    (fun best i =>
      let run := zeroRun (groups.drop i)
      if best.2 < run then (i, run) else best)
    (0, 0)

def hexText (n : Nat) : String :=
  String.ofList (Nat.toDigits 16 n)

def groupsText (groups : List Nat) : String :=
  ":".intercalate (groups.map hexText)

/-- The groups of an address with the longest run of two or more zeros left out. -/
def ipv6Text (groups : List Nat) : String :=
  let (start, length) := longestZeros groups
  if length < 2 then groupsText groups
  else groupsText (groups.take start) ++ "::" ++ groupsText (groups.drop (start + length))

end ColumnStore.Url
