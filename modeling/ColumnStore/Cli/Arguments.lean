import ColumnStore.Config.Settings
import ColumnStore.Number.Digits
import ColumnStore.Text.Trimming

/-! The arguments of the command line are one statement and options around it.
They are read from left to right: the first argument that is wrong, or that asks for help or for
the version, settles the outcome.
-/

namespace ColumnStore.Cli

/-- What the arguments ask for. -/
structure Arguments where
  /-- The name of a saved connection. -/
  connect : Option String := none
  host : Option String := none
  port : Option UInt16 := none
  mode : Option Mode := none
  database : Option String := none
  user : Option String := none
  askPassword : Bool := false
  dryRun : Bool := false
  /-- The texts to bind, in order. -/
  bindings : List String := []
  sql : Option String := none
deriving DecidableEq, Repr

/-- The options that take a value. -/
inductive ValueOption where
  | connect
  | host
  | port
  | mode
  | database
  | user
  | bind
deriving DecidableEq, Repr

/-- The options that take no value. -/
inductive Switch where
  | askPassword
  | dryRun
  | help
  | version
deriving DecidableEq, Repr

/-- An option by what follows its name. -/
inductive OptionName where
  | value (o : ValueOption)
  | switch (s : Switch)
deriving DecidableEq, Repr

/-- Why arguments are refused. -/
inductive Misuse where
  | unexpected (argument : String)
  | valueMissing (option : String)
  | valueNotTaken (option : String)
  | badValue (option value : String)
  | repeated (option : String)
  | conflicting
  | statementMissing
deriving DecidableEq, Repr

def Misuse.text : Misuse → String
  | unexpected argument => "unexpected argument '" ++ argument ++ "' found"
  | valueMissing option => "a value is required for '--" ++ option ++ "' but none was supplied"
  | valueNotTaken option => "unexpected value for '--" ++ option ++ "' found; no more were expected"
  | badValue option value => "invalid value '" ++ value ++ "' for '--" ++ option ++ "'"
  | repeated option => "the argument '--" ++ option ++ "' cannot be used multiple times"
  | conflicting =>
    "the argument '--connect' cannot be used with a host, a port, a mode or a database"
  | statementMissing => "the following required arguments were not provided: <SQL>"

/-- What ends the reading of arguments before there is anything to run. -/
inductive Halt where
  | help
  | version
  | misuse (m : Misuse)
deriving DecidableEq, Repr

/-- The options by their names after the dashes. -/
def options : List (String × OptionName) :=
  [("connect", .value .connect), ("host", .value .host), ("port", .value .port),
    ("mode", .value .mode), ("database", .value .database), ("user", .value .user),
    ("bind", .value .bind), ("ask-password", .switch .askPassword),
    ("dry-run", .switch .dryRun), ("help", .switch .help), ("version", .switch .version)]

/-- An argument by its form. -/
inductive Form where
  /-- Two dashes alone, after which there are no more options. -/
  | separator
  /-- A name after two dashes, perhaps with a value after an equals sign. -/
  | long (name : String) (value : Option String)
  /-- A letter after one dash; what follows the letter does not matter. -/
  | short (letter : Char)
  | operand
deriving DecidableEq, Repr

def Form.of (argument : String) : Form :=
  match argument.toList with
  | ['-', '-'] => .separator
  | '-' :: '-' :: rest =>
    match Text.cutFirst? (· = '=') rest with
    | none => .long (String.ofList rest) none
    | some (name, value) => .long (String.ofList name) (some (String.ofList value))
  | '-' :: letter :: _ => .short letter
  | _ => .operand

def portNumber? (value : String) : Option UInt16 :=
  let (negative, digits) := splitSign value.toList
  let n := signed negative (digitsValue 10 digits)
  if !digits.isEmpty ∧ digits.all Char.isDigit ∧ 0 ≤ n ∧ n < 65536 then
    some (UInt16.ofNat n.toNat)
  else none

/-- The mode that a value of an option stands for, whatever the case of its letters. -/
def modeOf? (value : String) : Option Mode :=
  Mode.ofWord? (String.ofList (value.toList.map Char.toLower))

namespace Arguments

/-- A value for something that has none yet. -/
def once (name : String) (old : Option α) (new? : Option α) (value : String)
    : Except Halt (Option α) :=
  match new?, old with
  | none, _ => .error (.misuse (.badValue name value))
  | some _, some _ => .error (.misuse (.repeated name))
  | some new, none => .ok (some new)

def assign (a : Arguments) (o : ValueOption) (v : String) : Except Halt Arguments := do
  match o with
  | .connect => return { a with connect := (← once "connect" a.connect (some v) v) }
  | .host => return { a with host := (← once "host" a.host (some v) v) }
  | .port => return { a with port := (← once "port" a.port (portNumber? v) v) }
  | .mode => return { a with mode := (← once "mode" a.mode (modeOf? v) v) }
  | .database => return { a with database := (← once "database" a.database (some v) v) }
  | .user => return { a with user := (← once "user" a.user (some v) v) }
  | .bind => return { a with bindings := a.bindings ++ [v] }

def turnOn (a : Arguments) : Switch → Except Halt Arguments
  | .askPassword =>
    if a.askPassword then .error (.misuse (.repeated "ask-password"))
    else .ok { a with askPassword := true }
  | .dryRun =>
    if a.dryRun then .error (.misuse (.repeated "dry-run"))
    else .ok { a with dryRun := true }
  | .help => .error .help
  | .version => .error .version

def operand (a : Arguments) (argument : String) : Except Halt Arguments :=
  match a.sql with
  | none => .ok { a with sql := some argument }
  | some _ => .error (.misuse (.unexpected argument))

def readOperands (a : Arguments) (arguments : List String) : Except Halt Arguments :=
  arguments.foldlM operand a

def readShort (argument : String) (letter : Char) : Halt :=
  if letter = 'h' then .help
  else if letter = 'V' then .version
  else .misuse (.unexpected argument)

/-- Reads arguments from left to right. -/
def readFrom (a : Arguments) : List String → Except Halt Arguments
  | [] => .ok a
  | argument :: rest => match Form.of argument with
    | .separator => a.readOperands rest
    | .operand => do (← a.operand argument).readFrom rest
    | .short letter => .error (readShort argument letter)
    | .long name value? => match options.lookup name, value? with
      | none, _ => .error (.misuse (.unexpected argument))
      | some (.switch _), some _ => .error (.misuse (.valueNotTaken name))
      | some (.switch s), none => do (← a.turnOn s).readFrom rest
      | some (.value o), some value => do (← a.assign o value).readFrom rest
      | some (.value o), none => match rest with
        | [] => .error (.misuse (.valueMissing name))
        | value :: rest =>
          if Form.of value = .operand then do (← a.assign o value).readFrom rest
          else .error (.misuse (.valueMissing name))

/-- Whether a saved connection is asked for together with what it already settles. -/
def isConflicting (a : Arguments) : Bool :=
  a.connect.isSome
    && (a.host.isSome || a.port.isSome || a.mode.isSome || a.database.isSome)

/-- The arguments with their statement, unless something else is asked for or wrong. -/
def read (arguments : List String) : Except Halt (Arguments × String) := do
  let a ← ({} : Arguments).readFrom arguments
  if a.isConflicting then .error (.misuse .conflicting)
  else match a.sql with
    | none => .error (.misuse .statementMissing)
    | some sql => return (a, sql)

end Arguments

end ColumnStore.Cli
