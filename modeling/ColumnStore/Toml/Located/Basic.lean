import ColumnStore.Number.Binary64
import ColumnStore.Text.Utf8
import ColumnStore.Toml.Basic

/-! Values that know where in a document they stand, so that what is wrong with one can be shown.
A table that no header and no braces wrote stands nowhere of its own.
-/

namespace ColumnStore.Toml

/-- A stretch of a document: its first byte and the byte after its last. -/
structure Span where
  start : Nat
  stop : Nat
deriving DecidableEq, Repr

structure Key where
  name : String
  span : Span
deriving DecidableEq, Repr

inductive Node where
  | string (span : Span) (s : String)
  | integer (span : Span) (n : Int)
  | float (span : Span) (x : Binary64)
  | bool (span : Span) (b : Bool)
  | dateTime (span : Span)
  | array (span : Span) (items : List Node)
  | table (span : Option Span) (origin : Origin) (entries : List (Key × Node))
  /-- The tables of an array of tables. -/
  | tables (elements : List Node)

/-- Where a value stands; an array of tables reaches from its first table to its last. -/
def Node.span? : Node → Option Span
  | string span _ | integer span _ | float span _ | bool span _ | dateTime span
  | array span _ => some span
  | table span _ _ => span
  | tables elements =>
    match elements.head?, elements.getLast? with
    | some (.table (some first) _ _), some (.table (some last) _ _) =>
      some ⟨first.start, last.stop⟩
    | _, _ => none

structure Fault where
  span : Span
  message : String
deriving DecidableEq, Repr

namespace Fault

/-- The line of a byte and its column in characters, both from zero. A byte past the end is as far
behind the last one as it says, and the column of a character of several bytes counts bytes.
-/
def position (bytes : List UInt8) (offset : Nat) : Nat × Nat :=
  let index := min offset (bytes.length - 1)
  let before := bytes.take index
  let width := (before.reverse.takeWhile (· ≠ 10)).length
  let column := match Text.Utf8.decode? ((bytes.drop (index - width)).take (width + 1)) with
    | some cs => cs.length - 1
    | none => width
  (before.count 10, column + (offset - index))

/-- A fault with the line it is in, and marks under the place; there is always one mark, and none
stands behind the line.
-/
def text (source : String) (f : Fault) : String :=
  let bytes := Text.Utf8.encode source.toList
  let (line, column) := position bytes f.span.start
  let content := String.ofList ((source.toList.splitOn '\n')[line]?.getD [])
  let width := min (f.span.stop - f.span.start) (content.utf8ByteSize - column)
  let number := toString (line + 1)
  let margin := String.ofList (List.replicate (number.length + 1) ' ') ++ "|"
  "TOML parse error at line " ++ number ++ ", column " ++ toString (column + 1) ++ "\n"
    ++ margin ++ "\n"
    ++ number ++ " | " ++ content ++ "\n"
    ++ margin ++ String.ofList (List.replicate (column + 1) ' ')
    ++ String.ofList (List.replicate (max 1 width) '^') ++ "\n"
    ++ f.message ++ "\n"

end Fault

end ColumnStore.Toml
