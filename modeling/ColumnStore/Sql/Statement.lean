import ColumnStore.Error
import ColumnStore.Escaping
import ColumnStore.Sql.Lexical

/-! A statement is SQL text with values bound in places of their own.
Rendering writes each value once as a literal; the template writes a question mark instead.
-/

namespace ColumnStore

/-- SQL text and values in turn. Each value stands after a text of its own, which may be empty,
so one sequence of characters and values has one statement.
-/
structure Statement where
  /-- The bound values, each with the text before it. -/
  bound : List (String × Value) := []
  /-- The text after the last value. -/
  tail : String := ""
deriving Repr

/-- A part of a statement as a reader sees it: a text that is not empty, or a value. -/
inductive Segment where
  | text (s : String)
  | param (v : Value)
deriving Repr

namespace Statement

def empty : Statement := {}

def text (sql : String) : Statement :=
  { tail := sql }

def param (v : Value) : Statement :=
  { bound := [("", v)] }

def pushText (s : Statement) (sql : String) : Statement :=
  { s with tail := s.tail ++ sql }

def pushParam (s : Statement) (v : Value) : Statement :=
  { bound := s.bound ++ [(s.tail, v)] }

/-- One statement after the other; the texts that meet become one. -/
def append (s t : Statement) : Statement :=
  match t.bound with
  | [] => s.pushText t.tail
  | (sql, v) :: rest => { bound := s.bound ++ (s.tail ++ sql, v) :: rest, tail := t.tail }

instance : Append Statement := ⟨append⟩

def joined (separator : String) : List Statement → Statement
  | [] => empty
  | [s] => s
  | s :: rest => s ++ text separator ++ joined separator rest

/-- The values with the text that follows each. -/
def pushBound (s : Statement) (pairs : List (Value × String)) : Statement :=
  pairs.foldl (fun t (v, sql) => (t.pushParam v).pushText sql) s

/-- Adds a raw text with a value for each of its placeholders, or fails when their numbers
differ.
-/
def pushRaw (s : Statement) (sql : String) (bindings : List Value) : Except Error Statement :=
  let (first, more) := Lexical.split sql
  if more.length = bindings.length then
    .ok ((s.pushText first).pushBound (bindings.zip more))
  else
    .error (.placeholderMismatch sql more.length bindings.length)

def textSegments (sql : String) : List Segment :=
  if sql.isEmpty then [] else [.text sql]

/-- The texts that are not empty and the values, in order. -/
def segments (s : Statement) : List Segment :=
  s.bound.flatMap (fun (sql, v) => textSegments sql ++ [.param v]) ++ textSegments s.tail

def params (s : Statement) : List Value :=
  s.bound.map (·.2)

def isEmpty (s : Statement) : Bool :=
  s.bound.isEmpty && s.tail.isEmpty

def write (literal : Value → String) (s : Statement) : String :=
  String.join (s.bound.map fun (sql, v) => sql ++ literal v) ++ s.tail

def render (e : Escaping) (s : Statement) : String :=
  s.write e.quote

/-- The SQL text with a question mark for every value. -/
def template (s : Statement) : String :=
  s.write fun _ => "?"

end Statement

end ColumnStore
