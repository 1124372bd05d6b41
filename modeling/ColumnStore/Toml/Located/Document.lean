import ColumnStore.Toml.Located.Scalars
import ColumnStore.Toml.Located.Table

/-! A document is read once more with the places of its values, to say what is wrong with it.
The rules are those by which documents are read at all.
-/

namespace ColumnStore.Toml.Located

open Scan

/-- How many parts a key may have, and how deep values may be nested. -/
def tooDeep : Nat := maxDepth + 1

def keyPart : Scan Key := do
  blanks
  let (span, name) ← spanned do
    match ← head? with
    | none => stop
    | some '"' => basicString
    | some '\'' => literalString
    | some _ => return String.ofList (← run1 isKeyChar)
  blanks
  return ⟨name, span⟩

def key : Scan (List Key) :=
  let fits (parts : List Key) : Except String (List Key) :=
    if tooDeep ≤ parts.length then .error "recursion limit exceeded" else .ok parts
  sift fits (named "key" (separated1 '.' keyPart))

def equals : Scan Unit :=
  wanting (ticked "=") (wanting (ticked ".") (sign '='))

structure Entry where
  path : List Key
  key : Key
  value : Node

/-- The entry of the parts of a key, of which there is at least one. -/
def entryOf (parts : List Key) (value : Node) : Entry :=
  { path := parts.dropLast, key := parts.getLast?.getD ⟨"", ⟨0, 0⟩⟩, value }

section Values

variable (value : Scan Node)

def arrayItems : Scan (List Node) := do
  if (← head?) = some ']' then return []
  let items ← separated ',' do trivia; let item ← value; trivia; return item
  if !items.isEmpty then
    let _ ← optional (sign ',')
  trivia
  return items

def array : Scan (List Node) := do
  sign '['
  let items ← commit (arrayItems value)
  named "array" (wanting (ticked "]") (commit (sign ']')))
  return items

def braceEntry : Scan Entry := do
  let parts ← key
  commit do
    equals
    blanks
    let v ← value
    blanks
    return entryOf parts v

def fillBraces (entries : List Entry) : Except String (List (Key × Node)) := do
  let filled ← entries.foldlM
    (fun (d : Draft) e => d.addEntry .braces [] e.path e.key e.value) { origin := .inLine }
  return filled.entries

def braces : Scan (List (Key × Node)) := do
  sign '\x7B'
  let entries ← commit (sift fillBraces do
    let entries ← separated ',' (braceEntry value)
    blanks
    return entries)
  named "inline table" (wanting (ticked "\x7D") (commit (sign '\x7D')))
  return entries

end Values

def leaf : Scan Node := do
  match ← head? with
  | some '"' | some '\'' => placed .string anyString
  | _ => scalar

def value : Nat → Scan Node
  | 0 => do
    match ← head? with
    | some '[' | some '\x7B' => stopFor "recursion limit exceeded"
    | _ => leaf
  | depth + 1 => do
    match ← head? with
    | some '[' => placed .array (array (value depth))
    | some '\x7B' =>
      placed (fun span => .table (some span) .inLine) (braces (value depth))
    | _ => leaf

/-- Reads the rest of a line after its last part. -/
def endOfLine (s : Scan Unit) : Scan Unit :=
  wanting (ticked "#") (wanting "newline" s)

def lineEntry : Scan Entry := do
  let parts ← key
  commit do
    equals
    blanks
    let v ← value maxDepth
    endOfLine lineRest
    return entryOf parts v

/-- Reads a header between its brackets, with its place. -/
def header (opening closing : String) : Scan (Span × List Key) := do
  let (span, parts) ← spanned do
    word opening
    let parts ← commit key
    wanting (ticked closing) (wanting (ticked ".") (commit (word closing)))
    return parts
  endOfLine (commit lineRest)
  return (span, parts)

/-- A document that is being filled, and the path of the open table. -/
structure Filling where
  root : Draft := { span := some ⟨0, 0⟩, origin := .header }
  openPath : List Key := []

namespace Filling

def openWith (f : Filling) (change : Span → List String → Key → Draft → Except String Draft)
    (header : Span × List Key) : Except String Filling := do
  let (span, parts) := header
  let path := parts.dropLast
  match parts.getLast? with
  | none => return f
  | some key =>
    let root ← f.root.changeAt .header (change span (path.map (·.name)) key) [] path
    return { root, openPath := parts }

def addEntry (f : Filling) (e : Entry) : Except String Filling := do
  let add (d : Draft) : Except String Draft :=
    (d.reach e.value).addEntry .dotted (f.openPath.map (·.name)) e.path e.key e.value
  return { f with root := ← f.root.changeAt .header add [] f.openPath }

end Filling

def headerLine (f : Filling) : Scan Filling := named "table header" fun p =>
  match p.rest with
  | ['['] => .error { offset := p.offset }
  | '[' :: '[' :: _ => sift (f.openWith Draft.openElement) (header "[[" "]]") p
  | _ => sift (f.openWith Draft.openTable) (header "[" "]") p

/-- Reads the lines of a document, in at most the given number of steps. -/
def lines : Nat → Filling → Scan Filling
  | 0, f => return f
  | steps + 1, f => do
    match ← head? with
    | none => return f
    | some '#' =>
      commit do comment; lineEnd
      blanks
      lines steps f
    | some '[' =>
      let f ← commit (headerLine f)
      blanks
      lines steps f
    | some '\n' | some '\r' =>
      match ← optional newline with
      | none => stop
      | some _ =>
        blanks
        lines steps f
    | some _ =>
      let f ← commit (sift f.addEntry lineEntry)
      blanks
      lines steps f

/-- The document of a text with the places of its values, or what is wrong with it. -/
def document (text : String) : Except Fault Node :=
  let start : Place := match text.toList with
    | '\uFEFF' :: rest => ⟨rest, 3⟩
    | cs => ⟨cs, 0⟩
  let scan : Scan Filling := do
    blanks
    lines (start.rest.length + 1) {}
  match scan start with
  | .ok (f, _) => .ok f.root.toNode
  | .error t => .error (t.fault (Text.Utf8.encode text.toList))

end ColumnStore.Toml.Located
