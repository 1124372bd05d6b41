import ColumnStore.Toml.Scalar

/-! A TOML text is read into lines: headers of tables, headers of array elements, and keys with
values. What the lines amount to as one document is settled elsewhere.
-/

namespace ColumnStore.Toml

/-- A line of a document that says something. -/
inductive Line where
  | table (path : List String)
  | element (path : List String)
  | entry (path : List String) (key : String) (value : Toml)
deriving Repr

/-- Whether a character may stand in a comment or between quotes: no control but the tab. -/
def isTextChar (c : Char) : Bool :=
  c = '\t' ∨ (0x20 ≤ c.toNat ∧ c.toNat ≠ 0x7F)

/-- Whether a character may stand between two parts of a line. -/
def isSpace (c : Char) : Bool :=
  c = ' ' ∨ c = '\t'

/-- The text after a line end at its start. -/
def afterNewline? : List Char → Option (List Char)
  | '\n' :: rest => some rest
  | '\r' :: '\n' :: rest => some rest
  | _ => none

def skipComment : List Char → List Char
  | '#' :: rest => rest.dropWhile isTextChar
  | cs => cs

def scalarChar? (n : Nat) : Option Char :=
  if n.isValidChar then some (Char.ofNat n) else none

def hexNumber? (digits : List Char) : Option Nat :=
  if digits.all (isDigitOf 16) then some (digitsValue 16 digits) else none

def escapeChar? : Char → Option Char
  | 'b' => some '\x08'
  | 't' => some '\t'
  | 'n' => some '\n'
  | 'f' => some '\x0C'
  | 'r' => some '\r'
  | '"' => some '"'
  | '\\' => some '\\'
  | _ => none

def readAfterHex (digits : List Char) (further : Option (List Char × List Char))
    : Option (List Char × List Char) :=
  match (hexNumber? digits).bind scalarChar? with
  | some c => Text.readAfter c further
  | none => none

def readBasic : List Char → Option (List Char × List Char)
  | [] => none
  | '"' :: rest => some ([], rest)
  | '\\' :: 'u' :: a :: b :: c :: d :: rest => readAfterHex [a, b, c, d] (readBasic rest)
  | '\\' :: 'U' :: a :: b :: c :: d :: e :: f :: g :: h :: rest =>
    readAfterHex [a, b, c, d, e, f, g, h] (readBasic rest)
  | '\\' :: c :: rest => match escapeChar? c with
    | some decoded => Text.readAfter decoded (readBasic rest)
    | none => none
  | c :: rest => if isTextChar c ∧ c ≠ '\\' then Text.readAfter c (readBasic rest) else none

def readLiteral : List Char → Option (List Char × List Char)
  | [] => none
  | '\'' :: rest => some ([], rest)
  | c :: rest => if isTextChar c then Text.readAfter c (readLiteral rest) else none

/-- Up to two more of the closing quote belong to the text before it. -/
def closingQuotes (quote : Char) : List Char → List Char × List Char
  | a :: b :: rest =>
    if a = quote ∧ b = quote then ([a, b], rest)
    else if a = quote then ([a], b :: rest)
    else ([], a :: b :: rest)
  | [a] => if a = quote then ([a], []) else ([], [a])
  | [] => ([], [])

/-- Whether nothing but blanks stands before the next line end. -/
def isLineEnd (cs : List Char) : Bool :=
  (afterNewline? (cs.dropWhile isSpace)).isSome

/-- Reads a string over several lines after its opening double quotes. After a backslash at a line
end, blanks and line ends are passed over.
-/
def readBasicLines : Bool → List Char → Option (List Char × List Char)
  | _, [] => none
  | _, '"' :: '"' :: '"' :: rest => some (closingQuotes '"' rest)
  | _, '\\' :: 'u' :: a :: b :: c :: d :: rest =>
    readAfterHex [a, b, c, d] (readBasicLines false rest)
  | _, '\\' :: 'U' :: a :: b :: c :: d :: e :: f :: g :: h :: rest =>
    readAfterHex [a, b, c, d, e, f, g, h] (readBasicLines false rest)
  | passing, '\r' :: '\n' :: rest =>
    if passing then readBasicLines true rest else Text.readAfter '\n' (readBasicLines false rest)
  | passing, '\n' :: rest =>
    if passing then readBasicLines true rest else Text.readAfter '\n' (readBasicLines false rest)
  | _, '\\' :: c :: rest =>
    match escapeChar? c with
    | some decoded => Text.readAfter decoded (readBasicLines false rest)
    | none => if isLineEnd (c :: rest) then readBasicLines true (c :: rest) else none
  | passing, c :: rest =>
    if passing ∧ isSpace c then readBasicLines true rest
    else if isTextChar c ∧ c ≠ '\\' then Text.readAfter c (readBasicLines false rest)
    else none

/-- Reads a string over several lines after its opening single quotes. -/
def readLiteralLines : List Char → Option (List Char × List Char)
  | [] => none
  | '\'' :: '\'' :: '\'' :: rest => some (closingQuotes '\'' rest)
  | '\r' :: '\n' :: rest => Text.readAfter '\n' (readLiteralLines rest)
  | '\n' :: rest => Text.readAfter '\n' (readLiteralLines rest)
  | c :: rest => if isTextChar c then Text.readAfter c (readLiteralLines rest) else none

/-- A line end right after the opening quotes does not belong to the text. -/
def dropFirstNewline (cs : List Char) : List Char :=
  (afterNewline? cs).getD cs

def readString? (cs : List Char) : Option (List Char × List Char) :=
  match cs with
  | '"' :: '"' :: '"' :: rest => readBasicLines false (dropFirstNewline rest)
  | '\'' :: '\'' :: '\'' :: rest => readLiteralLines (dropFirstNewline rest)
  | '"' :: rest => readBasic rest
  | '\'' :: rest => readLiteral rest
  | _ => none

/-- The characters of a key without quotes. -/
def isKeyChar (c : Char) : Bool :=
  c.isAlphanum || c = '_' || c = '-'

def readKeyPart? (cs : List Char) : Option (String × List Char) :=
  let quoted := match cs with
    | '"' :: rest => some (readBasic rest)
    | '\'' :: rest => some (readLiteral rest)
    | _ => none
  match quoted with
  | some r => r.map fun (text, rest) => (String.ofList text, rest)
  | none =>
    let name := cs.takeWhile isKeyChar
    if name.isEmpty then none else some (String.ofList name, cs.dropWhile isKeyChar)

/-- How many parts a key may have, and how deep values may be nested. -/
def maxDepth : Nat := 79

/-- Reads a key of at most the given number of parts with dots between them: the parts before the
last, the last, and the text after the key and its blanks.
-/
def readKey? : Nat → List Char → Option ((List String × String) × List Char)
  | 0, _ => none
  | parts + 1, cs => do
    let (first, rest) ← readKeyPart? (cs.dropWhile isSpace)
    match rest.dropWhile isSpace with
    | '.' :: rest => do
      let ((path, last), rest) ← readKey? parts rest
      return ((first :: path, last), rest)
    | rest => return (([], first), rest)

/-- Passes over blanks, line ends and comments between the items of an array. -/
def skipTrivia : Nat → List Char → List Char
  | 0, cs => cs
  | fuel + 1, cs =>
    let rest := skipComment (cs.dropWhile isSpace)
    match afterNewline? rest with
    | some rest => skipTrivia fuel rest
    | none => rest

section Values

variable (value : List Char → Option (Toml × List Char))

/-- Reads the items of an array up to its closing bracket; a comma may stand after the last. -/
def readItems : Nat → List Char → Option (List Toml × List Char)
  | 0, _ => none
  | fuel + 1, cs =>
    match skipTrivia cs.length cs with
    | ']' :: rest => some ([], rest)
    | cs => do
      let (first, rest) ← value cs
      match skipTrivia rest.length rest with
      | ',' :: rest => do
        let (others, rest) ← readItems fuel rest
        return (first :: others, rest)
      | ']' :: rest => return ([first], rest)
      | _ => none

def readEntry (cs : List Char) : Option ((List String × String × Toml) × List Char) := do
  let ((path, key), rest) ← readKey? maxDepth cs
  match rest with
  | '=' :: rest => do
    let (v, rest) ← value (rest.dropWhile isSpace)
    return ((path, key, v), rest)
  | _ => none

/-- Reads the entries of a table in braces, of which there is at least one. -/
def readEntries : Nat → List Char → Option (List (List String × String × Toml) × List Char)
  | 0, _ => none
  | fuel + 1, cs => do
    let (first, rest) ← readEntry value cs
    match rest.dropWhile isSpace with
    | ',' :: rest => do
      let (others, rest) ← readEntries fuel rest
      return (first :: others, rest)
    | '}' :: rest => return ([first], rest)
    | _ => none

end Values

end ColumnStore.Toml
