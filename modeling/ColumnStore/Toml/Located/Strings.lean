import ColumnStore.Toml.Located.Scanner
import ColumnStore.Toml.Reader

/-! The four kinds of strings, and what stands between the parts of a document.
Once the opening quotes of a string are read, it can be nothing else.
-/

namespace ColumnStore.Toml.Located

open Scan

def blanks : Scan Unit := do
  let _ ← run isSpace

/-- Reads a line end. Anything else costs a byte before it is known to be none. -/
def newline : Scan Unit := fun p =>
  match p.rest with
  | [] => .error { offset := p.offset }
  | '\n' :: rest => .ok ((), ⟨rest, p.offset + 1⟩)
  | '\r' :: '\n' :: rest => .ok ((), ⟨rest, p.offset + 2⟩)
  | _ => .error { offset := p.offset + 1 }

def comment : Scan Unit := do
  sign '#'
  let _ ← run isTextChar

def lineEnd : Scan Unit := fun p =>
  match p.rest, afterNewline? p.rest with
  | [], _ => .ok ((), p)
  | _, some rest => .ok ((), ⟨rest, p.offset + (p.rest.length - rest.length)⟩)
  | _, none => .error { offset := p.offset }

/-- Reads what may come after the last part of a line. -/
def lineRest : Scan Unit := do
  blanks
  let _ ← optional comment
  lineEnd

/-- Passes over blanks, line ends and comments, in at most the given number of steps. -/
def triviaIn : Nat → Scan Unit
  | 0 => return ()
  | steps + 1 => do
    blanks
    match ← head? with
    | some '#' => do comment; newline; triviaIn steps
    | some '\n' | some '\r' => do newline; triviaIn steps
    | _ => return ()

def trivia : Scan Unit := fun p => triviaIn (p.rest.length + 1) p

def codePoint (width : Nat) : Scan Char := fun p =>
  let digits := (p.rest.take width).takeWhile (isDigitOf 16)
  if digits.length < width then .error { offset := p.offset }
  else match (hexNumber? digits).bind scalarChar? with
    | some c => .ok (c, ⟨p.rest.drop width, p.offset + width⟩)
    | none => .error { offset := p.offset, cause := "value is out of range" }

def escapes : List String :=
  ["\x60b\x60", "\x60f\x60", "\x60n\x60", "\x60r\x60", "\x60t\x60", "\x60u\x60", "\x60U\x60",
    "\x60\\\x60", "\x60\"\x60"]

/-- Reads a character after its backslash. -/
def afterBackslash : Scan Char := fun p =>
  match p.rest with
  | [] => .error { offset := p.offset }
  | 'u' :: rest =>
    named "unicode 4-digit hex code" (commit (codePoint 4)) ⟨rest, p.offset + 1⟩
  | 'U' :: rest =>
    named "unicode 8-digit hex code" (commit (codePoint 8)) ⟨rest, p.offset + 1⟩
  | c :: rest => match escapeChar? c with
    | some decoded => .ok (decoded, ⟨rest, p.offset + 1⟩)
    | none => .error {
        offset := p.offset + 1, isFinal := true, label := "escape sequence", wanted := escapes }

def escaped : Scan (List Char) := do
  sign '\\'
  return [← afterBackslash]

def isPlain (c : Char) : Bool :=
  isTextChar c && c ≠ '"' && c ≠ '\\'

def basicString : Scan String := do
  sign '"'
  let parts ← many (either (run1 isPlain) escaped)
  named "basic string" (commit (sign '"'))
  return String.ofList parts.flatten

def literalString : Scan String := named "literal string" do
  sign '\''
  let text ← run fun c => isTextChar c && c ≠ '\''
  commit (sign '\'')
  return String.ofList text

/-- Passes over a backslash at a line end, and the blanks and line ends after it. -/
def lineJoin : Scan Unit := do
  sign '\\'
  blanks
  newline
  let _ ← many (either newline do let _ ← run1 isSpace)

/-- Reads what is no quote in a string over several lines. -/
def basicContent : Scan (List Char) :=
  either (run1 isPlain)
    (either (do lineJoin; return [])
      (either escaped do newline; return ['\n']))

/-- Reads what is no quote in a literal string over several lines. -/
def literalContent : Scan (List Char) :=
  either (run1 fun c => isTextChar c && c ≠ '\'') do newline; return ['\n']

/-- Reads one or two quotes, two if they can be, which something comes after. -/
def quotesBefore (quote : Char) (s : Scan α) : Scan (List Char) :=
  either (do sign quote; sign quote; ahead s; return [quote, quote])
    (do sign quote; ahead s; return [quote])

/-- Reads the text of a string over several lines: contents with quotes among them and perhaps
quotes before the closing ones.
-/
def linesBody (quote : Char) (content : Scan (List Char)) (closing : Scan Unit)
    : Scan (List Char) := do
  let first ← many content
  let others ← many do
    let quotes ← quotesBefore quote content
    return quotes ++ (← content) ++ (← many content).flatten
  let last ← optional (quotesBefore quote closing)
  return first.flatten ++ others.flatten ++ last.getD []

def stringLines (label : String) (quote : Char) (content : Scan (List Char)) : Scan String :=
  let quotes : Scan Unit := do sign quote; sign quote; sign quote
  named label do
    quotes
    let _ ← optional newline
    let text ← commit (linesBody quote content quotes)
    commit quotes
    return String.ofList text

def anyString : Scan String :=
  either (stringLines "multiline basic string" '"' basicContent)
    (either basicString
      (either (stringLines "multiline literal string" '\'' literalContent) literalString))

end ColumnStore.Toml.Located
