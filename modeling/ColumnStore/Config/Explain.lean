import ColumnStore.Config.Settings
import ColumnStore.Text.Invisible
import ColumnStore.Toml.Located.Document
import ColumnStore.Value

/-! What is wrong with a text of settings is told for the first value that cannot be taken, in the
order in which the values stand. It is shown at the value itself, or else at the table around it,
or at its key.
-/

namespace ColumnStore.Config

open Toml

/-- What is wrong with a value, and where, if the value stands anywhere of its own. -/
structure Complaint where
  span : Option Span := none
  message : String

namespace Complaint

/-- The complaint about a value, shown at a wider place if it has none. -/
def widen (span : Option Span) (c : Complaint) : Complaint :=
  { c with span := c.span <|> span }

end Complaint

/-- A float with a point in it, unless it is none. -/
def pointedFloat (x : Binary64) : String :=
  let text := Value.floatText "NaN" "inf" "-inf" x
  if x.isNaN ∨ x.isInfinite ∨ text.contains '.' then text else text ++ ".0"

def found : Node → String
  | .string _ s => "string " ++ Text.visible s
  | .integer _ n => "integer \x60" ++ toString n ++ "\x60"
  | .float _ x => "floating point \x60" ++ pointedFloat x ++ "\x60"
  | .bool _ b => "boolean \x60" ++ toString b ++ "\x60"
  | .dateTime _ | .table .. => "map"
  | .array .. | .tables _ => "sequence"

def wrongKind (v : Node) (wanted : String) : Complaint :=
  ⟨v.span?, "invalid type: " ++ found v ++ ", expected " ++ wanted⟩

def choices : List String → String
  | [a, b] => "\x60" ++ a ++ "\x60 or \x60" ++ b ++ "\x60"
  | words => "one of " ++ ", ".intercalate (words.map fun w => "\x60" ++ w ++ "\x60")

/-- The complaint about a word that is none of the choices. -/
def wordComplaint? (words : List String) (span : Option Span) (word : String)
    : Option Complaint :=
  if words.contains word then none
  else some ⟨span, "unknown variant \x60" ++ word ++ "\x60, expected " ++ choices words⟩

/-- The complaint about what stands under a word that is chosen by a table. -/
def underWord? (v : Node) : Option Complaint :=
  match v with
  | .table _ _ [] | .array _ [] | .tables [] => none
  | .table .. | .array .. => some ⟨v.span?, "expected empty table"⟩
  | .tables _ => some ⟨v.span?, "expected empty array"⟩
  | v => some ⟨v.span?, "expected table, found " ++ Located.kindWord v⟩

def choiceComplaint? (words : List String) (v : Node) : Option Complaint :=
  let complaint? := match v with
    | .string _ s => wordComplaint? words none s
    | .table _ _ [] => some ⟨none, "wanted exactly 1 element, found 0 elements"⟩
    | .table _ _ [(key, under)] =>
      wordComplaint? words (some key.span) key.name <|> underWord? under
    | .table .. => some ⟨none, "wanted exactly 1 element, more than 1 element"⟩
    | _ => some ⟨none, "wanted string or table"⟩
  complaint?.map (·.widen v.span?)

def settingComplaint? (s : Setting) (v : Node) : Option Complaint :=
  match s, v with
  | .name, .string .. | .host, .string .. | .username, .string .. | .password, .string ..
  | .database, .string .. | .tablePrefix, .string .. => none
  | .name, v | .host, v | .username, v | .password, v | .database, v | .tablePrefix, v =>
    some (wrongKind v "a string")
  | .useTls, .bool .. | .readOnly, .bool .. | .async, .bool .. => none
  | .useTls, v | .readOnly, v | .async, v => some (wrongKind v "a boolean")
  | .port, .integer span n =>
    if 0 ≤ n ∧ n < 65536 then none
    else some ⟨some span, "invalid value: integer \x60" ++ toString n ++ "\x60, expected u16"⟩
  | .port, v => some (wrongKind v "u16")
  | .mode, v => choiceComplaint? Mode.words v
  | .escaping, v => choiceComplaint? Escaping.words v

/-- The complaint about the entries of a table; `given` are the settings before them. -/
def entriesComplaint? (given : List Setting) : List (Key × Node) → Option Complaint
  | [] => none
  | (key, v) :: entries =>
    match Setting.ofKey? key.name with
    | none => entriesComplaint? given entries
    | some s =>
      if given.contains s then
        some ⟨none, "duplicate field \x60" ++ s.keys.headD "" ++ "\x60"⟩
      else match settingComplaint? s v with
        | some c => some (c.widen (some key.span))
        | none => entriesComplaint? (s :: given) entries

def complaint? (v : Node) : Option Complaint :=
  match v with
  | .table span _ entries => (entriesComplaint? [] entries).map (·.widen span)
  | .array _ items => (Setting.all.zip items).findSome? fun (s, item) => settingComplaint? s item
  | .dateTime _ => none
  | v => some (wrongKind v "struct ConnectionConfig")

def listComplaint? (v : Node) : Option Complaint :=
  match v with
  | .array _ items => items.findSome? complaint?
  | .tables elements => elements.findSome? complaint?
  | v => some (wrongKind v "a sequence")

def savedComplaint? (v : Node) : Option Complaint :=
  match v with
  | .table span _ entries =>
    match entries.find? fun entry => entry.1.name = "connections" with
    | none => some ⟨span, "missing field \x60connections\x60"⟩
    | some (key, v) => (listComplaint? v).map fun c => c.widen (v.span? <|> some key.span)
  | _ => none

/-- What is wrong with a text, by the complaint about its document. -/
def explain (complaint? : Node → Option Complaint) (text : String) : String :=
  match Located.document text with
  | .error fault => fault.text text
  | .ok document => match complaint? document with
    | none => ""
    | some c => match c.span with
      | some span => Fault.text text ⟨span, c.message⟩
      | none => c.message ++ "\n"

end ColumnStore.Config
