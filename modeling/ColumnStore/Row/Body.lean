import ColumnStore.Row.Lines

/-! A whole result is one JSON text with its rows in the member `data`, and other members are
skipped. A body without text is a result without rows.
-/

namespace ColumnStore.Row

def ofArray? : Json → Option (List Row)
  | .array items => items.mapM fun
    | .object members => some members
    | _ => none
  | _ => none

/-- Reads the value of a member of the body: only that of `data` is kept. -/
def readBodyValue (name : String) (cs : List Char) : Option (Option Json × List Char) :=
  if name = "data" then
    (Json.readValue true (Json.maxDepth - 1) cs).map fun (v, rest) => (some v, rest)
  else (Json.readValue false cs.length cs).map fun (_, rest) => (none, rest)

/-- The rows of a body that is an object: the member `data` occurs at most once. -/
def ofMembers? (members : List (String × Option Json)) : Option (List Row) :=
  match members.filterMap (·.2) with
  | [] => some []
  | [v] => ofArray? v
  | _ => none

/-- The rows of a body that is an array: its one element, if any, stands for `data`. -/
def ofElements? : List Json → Option (List Row)
  | [] => some []
  | [v] => ofArray? v
  | _ => none

def ofBodyText? (cs : List Char) : Option (List Row) :=
  match cs.dropWhile Json.isSpace with
  | '{' :: rest =>
    (Json.whole (Json.readList '}' (Json.readMember true readBodyValue) rest)).bind ofMembers?
  | '[' :: rest =>
    (Json.whole (Json.readList ']' (Json.readValue true (Json.maxDepth - 1)) rest)).bind
      ofElements?
  | _ => none

def ofBody (body : List Char) : Except Error (List Row) :=
  if (Text.trim body).isEmpty then .ok []
  else match ofBodyText? body with
    | some rows => .ok rows
    | none => .error (.malformedResponse notJson)

end ColumnStore.Row
