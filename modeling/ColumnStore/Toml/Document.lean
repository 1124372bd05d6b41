import ColumnStore.Toml.Reader
import ColumnStore.Toml.Table

/-! A TOML text is its lines one after another, and the document is the table that they fill.
Values are read by one recursion on their nesting.
-/

namespace ColumnStore.Toml

def readValue : Nat → List Char → Option (Toml × List Char)
  | depth, '[' :: rest =>
    match depth with
    | 0 => none
    | depth + 1 =>
      (readItems (readValue depth) (rest.length + 1) rest).map fun (items, rest) =>
        (.array items, rest)
  | depth, '{' :: rest =>
    match depth with
    | 0 => none
    | depth + 1 =>
      match rest.dropWhile isSpace with
      | '}' :: rest => some (.table .inLine [], rest)
      | cs => do
        let (entries, rest) ← readEntries (readValue depth) cs.length cs
        return (← inLineTable? entries, rest)
  | _, cs =>
    match cs.head? with
    | some '"' | some '\'' => (readString? cs).map fun (text, rest) =>
      (.string (String.ofList text), rest)
    | _ =>
      let (token, rest) := takeScalar cs
      (scalar? token).map fun v => (v, rest)

/-- The text after what may end a line: blanks, a comment, and a line end or the end of the text.
-/
def endLine? (cs : List Char) : Option (List Char) :=
  match skipComment (cs.dropWhile isSpace) with
  | [] => some []
  | rest => afterNewline? rest

def readHeader (cs : List Char) : Option (Line × List Char) := do
  match cs with
  | '[' :: cs =>
    let ((path, key), rest) ← readKey? maxDepth cs
    match rest with
    | ']' :: ']' :: rest => return (.element (path ++ [key]), rest)
    | _ => none
  | cs =>
    let ((path, key), rest) ← readKey? maxDepth cs
    match rest with
    | ']' :: rest => return (.table (path ++ [key]), rest)
    | _ => none

/-- Reads a line that says something, without its end. -/
def readLine (cs : List Char) : Option (Line × List Char) :=
  match cs with
  | '[' :: rest => readHeader rest
  | cs => (readEntry (readValue maxDepth) cs).map fun ((path, key, v), rest) =>
    (.entry path key v, rest)

/-- Reads all lines; the ones that say nothing are passed over. -/
def readLines : Nat → List Char → Option (List Line)
  | 0, _ => none
  | fuel + 1, cs =>
    match skipTrivia cs.length cs with
    | [] => some []
    | cs => do
      let (line, rest) ← readLine cs
      let lines ← readLines fuel (← endLine? rest)
      return line :: lines

/-- A document that is being filled: what it holds so far, and the path of the open table. -/
structure Filling where
  root : Building := ⟨.header, []⟩
  openPath : List String := []

namespace Filling

def add (f : Filling) : Line → Option Filling
  | .table path => do
    return { root := ← f.root.openAt Building.openTable path, openPath := path }
  | .element path => do
    return { root := ← f.root.openAt Building.openElement path, openPath := path }
  | .entry path key v => do
    return { f with root := ← f.root.changeAt false (·.addEntry path key v) f.openPath }

end Filling

/-- The text without the mark that may stand at its start. -/
def dropMark : List Char → List Char
  | '\uFEFF' :: rest => rest
  | cs => cs

def parse? (text : String) : Option (List (String × Toml)) := do
  let cs := dropMark text.toList
  let lines ← readLines (cs.length + 1) cs
  let filled ← lines.foldlM Filling.add {}
  return filled.root.entries

end ColumnStore.Toml
