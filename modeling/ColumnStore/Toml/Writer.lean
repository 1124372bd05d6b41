/-! Settings are written one to a line, and a text in the first form of quotes that needs no
escapes. Line ends are kept in forms over several lines, which start on a line of their own.
-/

namespace ColumnStore.Toml

/-- Whether a character must be escaped in every form: a control but for tab and newline. -/
def isHardControl (c : Char) : Bool :=
  (c.toNat < 0x20 ∨ c.toNat = 0x7F) ∧ c ≠ '\t' ∧ c ≠ '\n'

/-- The longest run of a character, where `run` of them stand right before the text. -/
def longestRun (c : Char) (run : Nat) : List Char → Nat
  | [] => run
  | d :: rest => if d = c then longestRun c (run + 1) rest else max run (longestRun c 0 rest)

inductive Form where
  | basic
  | literal
  | basicLines
  | literalLines
deriving DecidableEq, Repr

/-- The first form that holds the text as it is, or else one that escapes. -/
def formFor (cs : List Char) : Form :=
  let hard := cs.any isHardControl
  let backslash := cs.contains '\\'
  let newline := cs.contains '\n'
  let double := longestRun '"' 0 cs
  let single := longestRun '\'' 0 cs
  if !hard && !backslash && !newline && double == 0 then .basic
  else if !hard && !newline && single == 0 then .literal
  else if !hard && !backslash && double ≤ 2 then .basicLines
  else if !hard && single ≤ 2 then .literalLines
  else if newline then .basicLines
  else .basic

def controlEscape (c : Char) : List Char :=
  let digits := (Nat.toDigits 16 c.toNat).map Char.toUpper
  '\\' :: 'u' :: List.replicate (4 - digits.length) '0' ++ digits

/-- The characters that stand for one character in double quotes; over several lines a newline
stands for itself, and of double quotes in a row each third one is escaped. `run` double quotes
stand right before.
-/
def escapeFrom (lines : Bool) (run : Nat) : List Char → List Char
  | [] => []
  | c :: rest =>
    match c with
    | '"' =>
      if lines ∧ run < 2 then '"' :: escapeFrom lines (run + 1) rest
      else '\\' :: '"' :: escapeFrom lines 0 rest
    | '\\' => '\\' :: '\\' :: escapeFrom lines 0 rest
    | '\x08' => '\\' :: 'b' :: escapeFrom lines 0 rest
    | '\t' => '\\' :: 't' :: escapeFrom lines 0 rest
    | '\x0C' => '\\' :: 'f' :: escapeFrom lines 0 rest
    | '\r' => '\\' :: 'r' :: escapeFrom lines 0 rest
    | '\n' =>
      if lines then '\n' :: escapeFrom lines 0 rest
      else '\\' :: 'n' :: escapeFrom lines 0 rest
    | c =>
      if isHardControl c then controlEscape c ++ escapeFrom lines 0 rest
      else c :: escapeFrom lines 0 rest

/-- The line end that a text with line ends starts after. -/
def firstNewline (cs : List Char) : List Char :=
  if cs.contains '\n' then ['\n'] else []

def quoteChars (cs : List Char) : List Char :=
  match formFor cs with
  | .basic => '"' :: escapeFrom false 0 cs ++ ['"']
  | .literal => '\'' :: cs ++ ['\'']
  | .basicLines => "\"\"\"".toList ++ firstNewline cs ++ escapeFrom true 0 cs ++ "\"\"\"".toList
  | .literalLines => "'''".toList ++ firstNewline cs ++ cs ++ "'''".toList

def quoted (s : String) : String :=
  String.ofList (quoteChars s.toList)

def setting (key value : String) : String :=
  key ++ " = " ++ value ++ "\n"

end ColumnStore.Toml
