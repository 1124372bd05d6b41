import ColumnStore.Dialect
import ColumnStore.Url.Parser

/-! The settings of a connection name a server, an identity on it, and how statements are written.
The base URL is formed from the settings as text and read again, so a host can hold more than a
host.
-/

namespace ColumnStore

/-- How statements travel: row by row as they come, or in whole answers. -/
inductive Mode where
  | streaming
  | batch
deriving DecidableEq, Repr

/-- The settings of a connection with their defaults. -/
structure Config where
  name : String := "default"
  host : String := "127.0.0.1"
  port : UInt16 := 8123
  mode : Mode := .streaming
  username : String := "default"
  password : String := ""
  database : String := "default"
  useTls : Bool := false
  readOnly : Bool := false
  /-- In batch mode, whether statements are queued first. -/
  async : Bool := false
  tablePrefix : String := ""
  escaping : Escaping := .native
deriving DecidableEq, Repr

def Mode.label : Mode → String
  | streaming => "Streaming"
  | batch => "Batch"

namespace Config

def scheme (c : Config) : String :=
  if c.useTls then "https" else "http"

/-- The root of the server. -/
def baseUrl (c : Config) : Except Error Url :=
  (Url.parse c.scheme ("//" ++ c.host ++ ":" ++ toString c.port.toNat ++ "/")).mapError .url

def description (c : Config) : String :=
  c.username ++ "@" ++ c.host ++ ":" ++ toString c.port.toNat ++ "/" ++ c.database
    ++ " (" ++ c.mode.label ++ ")"

/-- How a connection with these settings writes SQL. -/
def dialect (c : Config) : Dialect :=
  { tablePrefix := c.tablePrefix, database := c.database, escaping := c.escaping }

end Config

end ColumnStore
