import ColumnStore.Cli.Program
import ColumnStore.Http.Offline

/-! The command line. It gathers the surroundings of the program, runs it without a network, and
prints what it leaves behind.
-/

namespace ColumnStore.Cli

/-- The directory of settings: the one that is named by its full path, else one at home. -/
def settingsDirectory : IO String := do
  let named := (← IO.getEnv "XDG_CONFIG_HOME").filter (·.toList.head? = some '/')
  match named, ← IO.getEnv "HOME" with
  | some directory, _ => return directory
  | none, some home => return home ++ "/.config"
  | none, none => return "."

def readSaved : IO (Option (List UInt8)) := do
  let path := (← settingsDirectory) ++ "/chgrammar/connections.toml"
  try
    return some (← IO.FS.readBinFile path).toList
  catch _ => return none

def ask (prompt : String) : IO String := do
  let stderr ← IO.getStderr
  stderr.putStr prompt
  stderr.flush
  let line ← (← IO.getStdin).getLine
  return String.ofList (line.toList.filter fun c => c ≠ '\n' ∧ c ≠ '\r')

def runProgram (arguments : List String) : IO UInt32 := do
  let saved ← readSaved
  let password ← IO.getEnv "CLICKHOUSE_PASSWORD"
  let typedPassword ← match prompt? arguments saved with
    | none => pure none
    | some prompt => some <$> ask prompt
  let conversation := (program arguments { saved, password, typedPassword }).run Http.offline
  let (outcome, _) := conversation.run []
  (← IO.getStdout).putStr outcome.output
  (← IO.getStderr).putStr outcome.errors
  return UInt32.ofNat outcome.status

end ColumnStore.Cli

def main (arguments : List String) : IO UInt32 :=
  ColumnStore.Cli.runProgram arguments
