import ColumnStore.Value

/-! A literal is a value as SQL text, and an escaping decides how text is quoted in one.
Reading a quoted text back takes what the same escaping writes.
-/

namespace ColumnStore

/-- The two ways to quote text. -/
inductive Escaping where
  /-- The store's own backslash sequences. -/
  | native
  /-- A quote or a backslash is written twice. -/
  | doubling
deriving DecidableEq, Repr

namespace Escaping

/-- The letter after the backslash for a character that has an escape sequence. -/
def sequenceLetter? : Char → Option Char
  | '\\' => some '\\'
  | '\'' => some '\''
  | '\n' => some 'n'
  | '\r' => some 'r'
  | '\t' => some 't'
  | '\x00' => some '0'
  | _ => none

def sequenceChar? : Char → Option Char
  | '\\' => some '\\'
  | '\'' => some '\''
  | 'n' => some '\n'
  | 'r' => some '\r'
  | 't' => some '\t'
  | '0' => some '\x00'
  | _ => none

/-- The characters that stand for one character inside the quotes. -/
def escapeChar : Escaping → Char → List Char
  | native, c => match sequenceLetter? c with
    | some letter => ['\\', letter]
    | none => [c]
  | doubling, c => if c = '\'' ∨ c = '\\' then [c, c] else [c]

def escape (e : Escaping) (cs : List Char) : List Char :=
  cs.flatMap e.escapeChar

/-- A text as a literal in single quotes. -/
def quoteText (e : Escaping) (s : String) : String :=
  String.ofList ('\'' :: e.escape s.toList ++ ['\''])

/-- Reads the text between the quotes of a backslash literal; an unknown sequence and a quote
that stands alone are refused.
-/
def unescapeNative : List Char → Option (List Char)
  | [] => some []
  | '\\' :: c :: rest => do
    let decoded ← sequenceChar? c
    return decoded :: (← unescapeNative rest)
  | c :: rest =>
    if c = '\'' ∨ c = '\\' then none else (unescapeNative rest).map (c :: ·)

/-- Reads the text between the quotes of a doubling literal; a quote or a backslash that stands
alone is refused.
-/
def unescapeDoubling : List Char → Option (List Char)
  | [] => some []
  | '\'' :: '\'' :: rest => (unescapeDoubling rest).map ('\'' :: ·)
  | '\\' :: '\\' :: rest => (unescapeDoubling rest).map ('\\' :: ·)
  | c :: rest =>
    if c = '\'' ∨ c = '\\' then none else (unescapeDoubling rest).map (c :: ·)

def unescape : Escaping → List Char → Option (List Char)
  | native => unescapeNative
  | doubling => unescapeDoubling

/-- The text that a quoted literal stands for, if this escaping reads it back. -/
def unquote? (e : Escaping) (literal : String) : Option String :=
  match literal.toList with
  | '\'' :: rest =>
    if rest.getLast? = some '\'' then (e.unescape rest.dropLast).map String.ofList else none
  | _ => none

/-- The text of a moment in a literal: milliseconds only when it is not on a whole second. -/
def momentText (m : Moment) : String :=
  if m.nanosecond = 0 then m.seconds else m.milliseconds

mutual

/-- A value as a literal. -/
def quote (e : Escaping) : Value → String
  | .null => "NULL"
  | .bool b => toString b
  | .int n => toString n.toInt
  | .uint n => toString n.toNat
  | .float x => Value.floatText "nan" "inf" "-inf" x
  | .string s => e.quoteText s
  | .moment m => e.quoteText (momentText m)
  | .array items => Value.bracketed (quoteAll e items)

def quoteAll (e : Escaping) : List Value → List String
  | [] => []
  | v :: rest => quote e v :: quoteAll e rest

end

end Escaping

end ColumnStore
