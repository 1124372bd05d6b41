import ColumnStore.Config.Explain
import ColumnStore.Toml.Writer

/-! Connections are saved as one text, without their passwords, and found again by name.
A text without a list of connections is not a list of none.
-/

namespace ColumnStore.Config

def modeWord : Mode → String
  | .streaming => "streaming"
  | .batch => "batch"

def escapingWord : Escaping → String
  | .native => "native"
  | .doubling => "doubling"

/-- The value of a setting as it is written; the password is not. -/
def written? (c : Config) : Setting → Option String
  | .name => some (Toml.quoted c.name)
  | .host => some (Toml.quoted c.host)
  | .port => some (toString c.port.toNat)
  | .mode => some (Toml.quoted (modeWord c.mode))
  | .username => some (Toml.quoted c.username)
  | .password => none
  | .database => some (Toml.quoted c.database)
  | .useTls => some (toString c.useTls)
  | .readOnly => some (toString c.readOnly)
  | .async => some (toString c.async)
  | .tablePrefix => some (Toml.quoted c.tablePrefix)
  | .escaping => some (Toml.quoted (escapingWord c.escaping))

def lines (c : Config) : String :=
  "[[connections]]\n" ++ String.join (Setting.all.filterMap fun s =>
    (c.written? s).map fun v => Toml.setting (s.keys.headD "") v)

def save (connections : List Config) : String :=
  match connections with
  | [] => "connections = []\n"
  | connections => "\n".intercalate (connections.map lines)

/-- The settings of a text that names one connection. -/
def ofText (text : String) : Except Error Config :=
  match (Toml.parse? text).bind ofEntries? with
  | some c => .ok c
  | none => .error (.config (.unreadable (explain complaint? text)))

/-- The elements of a list in either spelling. -/
def elements? : Toml → Option (List Toml)
  | .array items => some items
  | .tables elements => some elements
  | _ => none

/-- The connections of a text. -/
def loadText (text : String) : Except Error (List Config) :=
  let connections? := do
    let document ← Toml.parse? text
    let elements ← elements? (← document.lookup "connections")
    elements.mapM ofToml?
  match connections? with
  | some connections => .ok connections
  | none => .error (.config (.unreadable (explain savedComplaint? text)))

/-- The connections of a file's bytes; without a file there are none. -/
def load : Option (List UInt8) → Except Error (List Config)
  | none => .ok []
  | some bytes => match Text.Utf8.decode? bytes with
    | none => .error (.file "stream did not contain valid UTF-8")
    | some cs => loadText (String.ofList cs)

/-- Whether two names are the same but for the case of ASCII letters. -/
def sameName (a b : String) : Bool :=
  a.toList.map Char.toLower = b.toList.map Char.toLower

/-- The first of the connections with a name. -/
def find (connections : List Config) (name : String) : Except Error Config :=
  match connections.find? fun c => sameName c.name name with
  | some c => .ok c
  | none => .error (.config (.noSavedConnection (Text.visible name)))

end ColumnStore.Config
