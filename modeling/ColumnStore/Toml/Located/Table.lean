import ColumnStore.Toml.Located.Basic

/-! Tables with places grow by the same rules as tables without, and what a line says again is
told by its name and its table.
-/

namespace ColumnStore.Toml.Located

/-- A table as it is being filled, with its place. -/
structure Draft where
  span : Option Span := none
  origin : Origin
  entries : List (Key × Node) := []

/-- The word for the kind of a value that is no table of the document. -/
def kindWord : Node → String
  | .string .. => "string"
  | .integer .. => "integer"
  | .float .. => "float"
  | .bool .. => "boolean"
  | .dateTime _ => "datetime"
  | .array .. => "array"
  | .table .. => "inline table"
  | .tables _ => "array of tables"

/-- A name in the way that messages show it. -/
def ticked (name : String) : String :=
  "\x60" ++ name ++ "\x60"

def repeated (key : String) : String :=
  "duplicate key " ++ ticked key

/-- What is said of a key that is given again in the table of a path. -/
def repeatedIn (path : List String) (key : String) : String :=
  repeated key ++ (if path.isEmpty then " in document root"
    else " in table " ++ ticked (".".intercalate path))

def blocked (path : List String) (v : Node) : String :=
  "dotted key " ++ ticked (".".intercalate path) ++ " attempted to extend non-table type ("
    ++ kindWord v ++ ")"

/-- How a path was written, which decides what it may go through. -/
inductive Route where
  /-- The path of a header. -/
  | header
  /-- A dotted key on a line. -/
  | dotted
  /-- A dotted key in braces. -/
  | braces
deriving DecidableEq

namespace Draft

def toNode (d : Draft) : Node :=
  .table d.span d.origin d.entries

def lookup (d : Draft) (name : String) : Option Node :=
  (d.entries.find? fun entry => entry.1.name = name).map (·.2)

/-- The table with a value written under a key; a key that is there keeps its place. -/
def put (d : Draft) (key : Key) (v : Node) : Draft :=
  if (d.lookup key.name).isSome then
    { d with entries := d.entries.map fun entry =>
        if entry.1.name = key.name then (entry.1, v) else entry }
  else { d with entries := d.entries ++ [(key, v)] }

/-- Changes the table at a path; `before` is the part of the path that leads here. -/
def changeAt (route : Route) (change : Draft → Except String Draft) (before : List String)
    : List Key → Draft → Except String Draft
  | [], d => change d
  | key :: path, d => do
    let here := before ++ [key.name]
    match d.lookup key.name with
    | none =>
      let origin := if route = .header then .implied else .dotted
      let made ← changeAt route change here path { origin }
      return d.put key made.toNode
    | some (.table span origin entries) =>
      if origin = .inLine ∧ route ≠ .braces then
        .error (blocked here (.table span origin entries))
      else if route ≠ .header ∧ (origin = .header ∨ origin = .inLine) then
        .error (repeated key.name)
      else
        let changed ← changeAt route change here path ⟨span, origin, entries⟩
        return d.put key changed.toNode
    | some (.tables elements) =>
      match elements.getLast? with
      | some (.table span origin entries) =>
        let changed ← changeAt route change here path ⟨span, origin, entries⟩
        return d.put key (.tables (elements.dropLast ++ [changed.toNode]))
      | _ => return d
    | some v => .error (blocked here v)

def addEntry (route : Route) (tablePath : List String) (path : List Key) (key : Key) (v : Node)
    (d : Draft) : Except String Draft :=
  let insert (t : Draft) : Except String Draft :=
    if (t.origin == .dotted) = path.isEmpty then .error (repeated key.name)
    else match t.lookup key.name with
      | some _ => .error (if route = .braces then repeated key.name
          else repeatedIn tablePath key.name)
      | none => .ok (t.put key v)
  changeAt route insert [] path d

/-- The table whose place reaches as far as its last value. -/
def reach (d : Draft) (v : Node) : Draft :=
  match d.span, v.span? with
  | some here, some there => { d with span := some ⟨here.start, there.stop⟩ }
  | _, _ => d

/-- Opens the table of a header; one that was implied so far comes last from then on. -/
def openTable (span : Span) (path : List String) (key : Key) (d : Draft) : Except String Draft :=
  match d.lookup key.name with
  | none => .ok (d.put key (.table (some span) .header []))
  | some (.table _ .implied entries) =>
    let others := d.entries.filter fun entry => entry.1.name ≠ key.name
    .ok { d with entries := others ++ [(key, .table (some span) .header entries)] }
  | some _ => .error (repeatedIn path key.name)

/-- Opens a new table at the end of an array of tables. -/
def openElement (span : Span) (path : List String) (key : Key) (d : Draft)
    : Except String Draft :=
  let element : Node := .table (some span) .header []
  match d.lookup key.name with
  | none => .ok (d.put key (.tables [element]))
  | some (.tables elements) => .ok (d.put key (.tables (elements ++ [element])))
  | some _ => .error (repeatedIn path key.name)

end Draft

end ColumnStore.Toml.Located
