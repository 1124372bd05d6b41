import ColumnStore.Config.Basic
import ColumnStore.Toml.Document

/-! Settings are read from named values. Several have second names, but a setting is given at most
once; names that are not known are passed over.
-/

namespace ColumnStore

/-- The settings by the order in which they are listed. -/
inductive Setting where
  | name
  | host
  | port
  | mode
  | username
  | password
  | database
  | useTls
  | readOnly
  | async
  | tablePrefix
  | escaping
deriving DecidableEq, Repr

namespace Setting

def all : List Setting :=
  [name, host, port, mode, username, password, database, useTls, readOnly, async, tablePrefix,
    escaping]

/-- The names under which a setting is read; it is written under the first one. -/
def keys : Setting → List String
  | name => ["name"]
  | host => ["host"]
  | port => ["port"]
  | mode => ["mode"]
  | username => ["username"]
  | password => ["password"]
  | database => ["database"]
  | useTls => ["use_tls", "useTLS", "https"]
  | readOnly => ["read_only", "readOnly", "readonly"]
  | async => ["async"]
  | tablePrefix => ["prefix"]
  | escaping => ["escaping"]

def ofKey? (key : String) : Option Setting :=
  all.find? fun s => s.keys.contains key

end Setting

/-- The words for modes; each mode has an older word as well. -/
def Mode.words : List String :=
  ["streaming", "tcp", "batch", "http"]

def Mode.ofWord? (word : String) : Option Mode :=
  if word = "streaming" ∨ word = "tcp" then some .streaming
  else if word = "batch" ∨ word = "http" then some .batch
  else none

def Escaping.words : List String :=
  ["native", "doubling"]

def Escaping.ofWord? (word : String) : Option Escaping :=
  if word = "native" then some .native
  else if word = "doubling" then some .doubling
  else none

namespace Config

def text? : Toml → Option String
  | .string s => some s
  | _ => none

def truth? : Toml → Option Bool
  | .bool b => some b
  | _ => none

/-- The port of a value, which is a whole number of 16 bits. -/
def portNumber? : Toml → Option UInt16
  | .integer n => if 0 ≤ n ∧ n < 65536 then some (UInt16.ofNat n.toNat) else none
  | _ => none

def isEmptyValue : Toml → Bool
  | .array items => items.isEmpty
  | .table _ entries => entries.isEmpty
  | _ => false

/-- A choice is a word, or a table with the word as its only name and nothing under it. -/
def word? : Toml → Option String
  | .string s => some s
  | .table _ [(key, v)] => if isEmptyValue v then some key else none
  | _ => none

/-- The settings with one of them changed to a value. -/
def assign? (c : Config) (s : Setting) (v : Toml) : Option Config :=
  match s with
  | .name => (text? v).map fun x => { c with name := x }
  | .host => (text? v).map fun x => { c with host := x }
  | .port => (portNumber? v).map fun x => { c with port := x }
  | .mode => ((word? v).bind Mode.ofWord?).map fun x => { c with mode := x }
  | .username => (text? v).map fun x => { c with username := x }
  | .password => (text? v).map fun x => { c with password := x }
  | .database => (text? v).map fun x => { c with database := x }
  | .useTls => (truth? v).map fun x => { c with useTls := x }
  | .readOnly => (truth? v).map fun x => { c with readOnly := x }
  | .async => (truth? v).map fun x => { c with async := x }
  | .tablePrefix => (text? v).map fun x => { c with tablePrefix := x }
  | .escaping => ((word? v).bind Escaping.ofWord?).map fun x => { c with escaping := x }

/-- The settings of named values over the defaults. -/
def ofEntries? (entries : List (String × Toml)) : Option Config :=
  let known := entries.filterMap fun (key, v) => (Setting.ofKey? key).map fun s => (s, v)
  if (known.map (·.1)).Nodup then
    known.foldlM (fun c (s, v) => c.assign? s v) ({} : Config)
  else none

/-- The settings of a table, or of a list of values in the order of the settings. A date or time
names no setting at all.
-/
def ofToml? : Toml → Option Config
  | .table _ entries => ofEntries? entries
  | .array items =>
    (Setting.all.zip items).foldlM (fun c (s, v) => c.assign? s v) ({} : Config)
  | .dateTime => some {}
  | _ => none

end Config

end ColumnStore
