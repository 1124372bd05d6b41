import ColumnStore.Json.Numeral
import ColumnStore.Text.Trimming

/-! JSON text is read by one recursion on the nesting and one on the length of the text.
A value that is skipped is only checked for its form: its numbers may be too large and its
surrogates may stand alone.
-/

namespace ColumnStore.Json

/-- Whether a character may stand between two parts of a JSON text. -/
def isSpace (c : Char) : Bool :=
  c = ' ' ∨ c = '\n' ∨ c = '\t' ∨ c = '\r'

def hex4? (a b c d : Char) : Option Nat :=
  if [a, b, c, d].all (isDigitOf 16) then some (digitsValue 16 [a, b, c, d]) else none

def escapeChar? : Char → Option Char
  | '"' => some '"'
  | '\\' => some '\\'
  | '/' => some '/'
  | 'b' => some '\x08'
  | 'f' => some '\x0C'
  | 'n' => some '\n'
  | 'r' => some '\r'
  | 't' => some '\t'
  | _ => none

def isHighSurrogate (n : Nat) : Bool :=
  0xD800 ≤ n && n ≤ 0xDBFF

def isLowSurrogate (n : Nat) : Bool :=
  0xDC00 ≤ n && n ≤ 0xDFFF

/-- Reads a string after its opening quote. When the text is not `kept`, surrogates may stand
alone.
-/
def readString (kept : Bool) : List Char → Option (List Char × List Char)
  | [] => none
  | '"' :: rest => some ([], rest)
  | '\\' :: 'u' :: a :: b :: c :: d :: rest =>
    match hex4? a b c d with
    | none => none
    | some unit =>
      if !kept then Text.readAfter '\uFFFD' (readString kept rest)
      else if isLowSurrogate unit then none
      else if isHighSurrogate unit then
        match rest with
        | '\\' :: 'u' :: e :: f :: g :: h :: rest =>
          match hex4? e f g h with
          | none => none
          | some low =>
            if isLowSurrogate low then
              Text.readAfter (Char.ofNat (0x10000 + (unit - 0xD800) * 0x400 + (low - 0xDC00)))
                (readString kept rest)
            else none
        | _ => none
      else Text.readAfter (Char.ofNat unit) (readString kept rest)
  | '\\' :: c :: rest =>
    match escapeChar? c with
    | some decoded => Text.readAfter decoded (readString kept rest)
    | none => none
  | c :: rest => if c.toNat < 0x20 ∨ c = '\\' then none else Text.readAfter c (readString kept rest)

/-- Reads the digits at the start of the text, of which there must be one. -/
def readDigits (cs : List Char) : Option (List Char × List Char) :=
  let digits := cs.takeWhile Char.isDigit
  if digits = [] then none else some (digits, cs.dropWhile Char.isDigit)

/-- Reads the digits before the point; a zero stands alone. -/
def readWhole (cs : List Char) : Option (List Char × List Char) :=
  match readDigits cs with
  | some (digits, rest) =>
    if digits.head? = some '0' ∧ digits.length ≠ 1 then none else some (digits, rest)
  | none => none

/-- Reads a point and the digits after it, if there is a point. -/
def readFraction : List Char → Option (Option (List Char) × List Char)
  | '.' :: rest => (readDigits rest).map fun (digits, rest) => (some digits, rest)
  | cs => some (none, cs)

def readExponent : List Char → Option (Option Int × List Char)
  | [] => some (none, [])
  | e :: rest =>
    if e = 'e' ∨ e = 'E' then
      let (negative, rest) := splitSign rest
      (readDigits rest).map fun (digits, rest) =>
        (some (signed negative (digitsValue 10 digits)), rest)
    else some (none, e :: rest)

def readNumeral (cs : List Char) : Option (Numeral × List Char) := do
  let (negative, cs) := match cs with
    | '-' :: rest => (true, rest)
    | cs => (false, cs)
  let (whole, cs) ← readWhole cs
  let (fraction, cs) ← readFraction cs
  let (exponent, cs) ← readExponent cs
  return ({ negative, whole, fraction, exponent }, cs)

/-- Reads what separates two elements, or the closing bracket: whether more follows. -/
def readSeparator (close : Char) (cs : List Char) : Option (Bool × List Char) :=
  match cs.dropWhile isSpace with
  | ',' :: rest => some (true, rest)
  | c :: rest => if c = close then some (false, rest) else none
  | [] => none

section Sequences

variable {α : Type}

/-- Reads elements up to the closing bracket, each of which takes at least one character. -/
def readElements (close : Char) (element : List Char → Option (α × List Char))
    : Nat → List Char → Option (List α × List Char)
  | 0, _ => none
  | fuel + 1, cs => do
    let (first, cs) ← element (cs.dropWhile isSpace)
    let (more, cs) ← readSeparator close cs
    if more then
      let (others, cs) ← readElements close element fuel cs
      return (first :: others, cs)
    else return ([first], cs)

def readList (close : Char) (element : List Char → Option (α × List Char)) (cs : List Char)
    : Option (List α × List Char) :=
  match cs.dropWhile isSpace with
  | [] => none
  | c :: rest =>
    if c = close then some ([], rest) else readElements close element cs.length cs

def readMember (kept : Bool) (value : String → List Char → Option (α × List Char))
    : List Char → Option ((String × α) × List Char)
  | '"' :: cs => do
    let (name, cs) ← readString kept cs
    match cs.dropWhile isSpace with
    | ':' :: cs => do
      let (v, cs) ← value (String.ofList name) (cs.dropWhile isSpace)
      return ((String.ofList name, v), cs)
    | _ => none
  | _ => none

end Sequences

/-- The members as an object: a repeated name keeps its first place and its last value. -/
def collect (members : List (String × Json)) : List (String × Json) :=
  members.foldl (fun object (name, v) => Keyed.set name v object) []

def readWord (word : String) (v : Json) (cs : List Char) : Option (Json × List Char) :=
  if word.toList.isPrefixOf cs then some (v, cs.drop word.length) else none

def readScalar (kept : Bool) (cs : List Char) : Option (Json × List Char) :=
  match cs with
  | 'n' :: _ => readWord "null" .null cs
  | 't' :: _ => readWord "true" (.bool true) cs
  | 'f' :: _ => readWord "false" (.bool false) cs
  | '"' :: rest => (readString kept rest).map fun (s, rest) => (.string (String.ofList s), rest)
  | cs => do
    let (numeral, rest) ← readNumeral cs
    match numeral.toJson? with
    | some v => return (v, rest)
    | none => if kept then none else return (.null, rest)

/-- Reads a value nested at most `depth` deep. -/
def readValue (kept : Bool) : Nat → List Char → Option (Json × List Char)
  | depth, '[' :: rest =>
    match depth with
    | 0 => none
    | depth + 1 =>
      (readList ']' (readValue kept depth) rest).map fun (items, rest) => (.array items, rest)
  | depth, '{' :: rest =>
    match depth with
    | 0 => none
    | depth + 1 =>
      (readList '}' (readMember kept fun _ => readValue kept depth) rest).map
        fun (members, rest) => (.object (collect members), rest)
  | _, cs => readScalar kept cs

/-- How deep arrays and objects may be nested. -/
def maxDepth : Nat := 127

def whole {α : Type} : Option (α × List Char) → Option α
  | some (v, rest) => if (rest.dropWhile isSpace).isEmpty then some v else none
  | none => none

def parse? (cs : List Char) : Option Json :=
  whole (readValue true maxDepth (cs.dropWhile isSpace))

end ColumnStore.Json
