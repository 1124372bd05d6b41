import ColumnStore.Cli.Arguments
import ColumnStore.Cli.Binding
import ColumnStore.Config.Saved
import ColumnStore.Connection.Basic
import ColumnStore.Json.Writer

/-! The program runs one statement and prints its rows as JSON.
What it finds around it, and what it prints, are values here.
-/

namespace ColumnStore.Cli

/-- What the program finds around it. -/
structure Surroundings where
  /-- The bytes of the saved connections, if any were saved. -/
  saved : Option (List UInt8) := none
  /-- The password that the environment holds. -/
  password : Option String := none
  /-- The password that is typed when the program asks for it. -/
  typedPassword : Option String := none

/-- What the program leaves behind. -/
structure Outcome where
  status : Nat
  output : String := ""
  errors : String := ""
deriving DecidableEq, Repr

/-- A failure with the failures beneath it, outermost first. -/
structure Failure where
  message : String
  causes : List String := []
deriving DecidableEq, Repr

def Failure.ofError (e : Error) : Failure :=
  ⟨e.message, e.causes⟩

/-- An error with the words for what was going on. -/
def Failure.within (context : String) (e : Error) : Failure :=
  ⟨context, e.message :: e.causes⟩

def indented (mark indent text : String) : String :=
  mark ++ ("\n" ++ indent).intercalate
    ((text.toList.splitOn '\n').map String.ofList)

/-- A number with blanks before it, up to five places. -/
def causeMark (i : Nat) : String :=
  String.ofList (List.replicate (5 - (toString i).length) ' ') ++ toString i ++ ": "

/-- The causes on lines of their own; several are numbered from zero. -/
def causeLines : List String → List String
  | [cause] => [indented "    " "    " cause]
  | causes => causes.zipIdx.map fun (cause, i) => indented (causeMark i) "       " cause

def Failure.text (f : Failure) : String :=
  if f.causes.isEmpty then f.message
  else f.message ++ "\n\nCaused by:\n" ++ "\n".intercalate (causeLines f.causes)

def versionText : String := "chgrammar 0.1.0\n"

/-- How the program is called, in one line. -/
def usage : String := "Usage: chgrammar [OPTIONS] <SQL>"

/-- What the program says of its arguments. -/
def helpText : String :=
  "Run a SQL statement against ClickHouse and print the rows as JSON\n\n" ++ usage ++ "\n\n"
    ++ "Arguments:\n"
    ++ "  <SQL>  SQL to run; \x60?\x60 placeholders are bound from --bind in order\n\n"
    ++ "Options:\n"
    ++ "      --connect <CONNECT>    Use a saved connection by name\n"
    ++ "      --host <HOST>          \n"
    ++ "      --port <PORT>          \n"
    ++ "      --mode <MODE>          streaming or batch\n"
    ++ "      --database <DATABASE>  \n"
    ++ "      --user <USER>          \n"
    ++ "      --ask-password         "
    ++ "Prompt for the password instead of reading CLICKHOUSE_PASSWORD\n"
    ++ "      --dry-run              Print the SQL without sending it\n"
    ++ "      --bind <BINDINGS>      Value for the next \x60?\x60 placeholder\n"
    ++ "  -h, --help                 Print help\n"
    ++ "  -V, --version              Print version\n"

def Outcome.ofHalt : Halt → Outcome
  | .help => { status := 0, output := helpText }
  | .version => { status := 0, output := versionText }
  | .misuse m => {
      status := 2
      errors := "error: " ++ m.text ++ "\n\n" ++ usage
        ++ "\n\nFor more information, try '--help'.\n" }

def Outcome.ofResult : Except Failure String → Outcome
  | .ok text => { status := 0, output := text ++ "\n" }
  | .error f => { status := 1, errors := "Error: " ++ f.text ++ "\n" }

def findSaved (saved : Option (List UInt8)) (name : String) : Except Failure Config :=
  let loaded := Config.load saved
  match loaded.bind fun connections => Config.find connections name with
  | .ok config => .ok config
  | .error e =>
    let names := match loaded with
      | .ok connections => connections.map (·.name)
      | .error _ => []
    .error (.within ("saved connections: " ++ ", ".intercalate names) e)

namespace Arguments

/-- The settings that the arguments ask for, their password apart. -/
def config (a : Arguments) (saved : Option (List UInt8)) : Except Failure Config := do
  let c ← match a.connect with
    | none => pure ({} : Config)
    | some name => findSaved saved name
  return { c with
    host := a.host.getD c.host
    port := a.port.getD c.port
    mode := a.mode.getD c.mode
    database := a.database.getD c.database
    username := a.user.getD c.username }

/-- The password to use: the typed one if it was asked for, else that of the environment, else
the saved one.
-/
def passwordFrom (a : Arguments) (s : Surroundings) (saved : String)
    : Except Failure String :=
  if a.askPassword then match s.typedPassword with
    | some typed => .ok typed
    | none => .error (.ofError (.file "No such device or address (os error 6)"))
  else .ok (s.password.getD saved)

/-- The connection that the arguments ask for. -/
def connection (a : Arguments) (s : Surroundings) : Except Failure Connection := do
  let config ← a.config s.saved
  let password ← a.passwordFrom s config.password
  return { config := { config with password } }

/-- The statement with the bindings in their places, as SQL text. -/
def boundSql (a : Arguments) (c : Connection) (sql : String) : Except Failure String :=
  match Statement.empty.pushRaw sql (a.bindings.map Binding.parse) with
  | .ok statement => .ok (c.render statement)
  | .error e => .error (.ofError e)

end Arguments

def rowsText (rows : List Row) : String :=
  (Json.array (rows.map .object)).pretty ""

/-- Runs SQL text over a connection and gives its rows as text. -/
def execute (c : Connection) (sql : String) : Http.Wire (Except Failure String) := do
  let (result, _) ← ((c.runSql sql).run).run {}
  match result with
  | .ok rows => return .ok (rowsText rows)
  | .error e => return .error (.within ("running against " ++ c.config.description) e)

/-- Runs the statement of the arguments, or only shows it. -/
def perform (a : Arguments) (sql : String) (s : Surroundings)
    : Http.Wire (Except Failure String) :=
  let prepared := do
    let connection ← a.connection s
    return (connection, ← a.boundSql connection sql)
  match prepared with
  | .error f => return .error f
  | .ok (connection, sql) =>
    if a.dryRun then return .ok sql else execute connection sql

/-- The words that ask for a password, if it is to be typed. -/
def prompt? (arguments : List String) (saved : Option (List UInt8)) : Option String :=
  match Arguments.read arguments with
  | .ok (a, _) =>
    if a.askPassword then match a.config saved with
      | .ok config => some ("Password for " ++ config.description ++ ": ")
      | .error _ => none
    else none
  | .error _ => none

/-- The program from its arguments to its end. -/
def program (arguments : List String) (s : Surroundings) : Http.Wire Outcome := do
  match Arguments.read arguments with
  | .error h => return .ofHalt h
  | .ok (a, sql) => return .ofResult (← perform a sql s)

end ColumnStore.Cli
