import ColumnStore.Client.Registry
import ColumnStore.Numbering
import ColumnStore.Sql.Statement

/-! A connection turns SQL text into requests of the client that its settings name.
Clients come from a shared registry on the first statement. A run ends at its first failure and
keeps what it has done so far: clients that were made, ids that were taken, requests that were
sent.
-/

namespace ColumnStore

/-- Settings with what they leave open: the dialect and the numbering column. -/
structure Connection where
  config : Config
  /-- How the connection writes SQL. -/
  dialect : Dialect := config.dialect
  /-- The column that numbers the rows of a batch. -/
  numberingColumn : String := "id"

/-- What a run reads and changes besides the server. -/
structure Session where
  registry : Registry := {}
  ids : Numbering.Sequence := {}

/-- What a connection computes in conversation with its server. -/
abbrev Run := ExceptT Error (StateT Session Http.Wire)

namespace Connection

def overWire (conversation : ExceptT Error Http.Wire α) : Run α :=
  ExceptT.mk (StateT.lift conversation.run)

def summary (c : Connection) : String :=
  "Connection \x7b connection: " ++ Text.visible c.config.description
    ++ ", async: " ++ toString c.config.async
    ++ ", prefix: " ++ Text.visible c.config.tablePrefix ++ " \x7d"

/-- The SQL text of a statement with every value as a literal. -/
def render (c : Connection) (s : Statement) : String :=
  s.render c.dialect.escaping

/-- The client of the connection with its number. -/
def client (c : Connection) : Run (Nat × Client) := do
  let session ← get
  let (found, registry) ← session.registry.lookup c.config
  set { session with registry }
  return found

def keep (number : Nat) (client : BatchClient) : Run Unit :=
  modify fun session =>
    { session with registry := session.registry.put number (.batch client) }

/-- Sends a statement through the queue: all that is queued goes out, and the rows are those of
this statement alone.
-/
def runQueued (number : Nat) (client : BatchClient) (sql : String) : Run (List Row) := do
  let (handle, client) := client.submit sql
  keep number client
  let (_, client) ← overWire (monadLift client.executePending)
  keep number (client.forget handle.ticket)
  client.result handle

/-- Sends a statement over a batch client, which selects the connection's database and asks
whether the server is there first.
-/
def runBatch (c : Connection) (number : Nat) (client : BatchClient) (sql : String)
    : Run (List Row) := do
  let client := client.useDatabase c.config.database
  keep number client
  overWire client.endpoint.ping
  if c.config.async then runQueued number client sql else overWire (client.write sql)

/-- Sends SQL text without the blanks at its ends; a text of blanks is not sent. -/
def runSql (c : Connection) (sql : String) : Run (List Row) := do
  let sql := Text.trimmed sql
  if sql.isEmpty then return []
  match ← c.client with
  | (_, .streaming client) => overWire (client.query sql)
  | (number, .batch client) => c.runBatch number client sql

def run (c : Connection) (s : Statement) : Run (List Row) :=
  c.runSql (c.render s)

/-- Sends SQL text for its effect. A success has nothing to tell but that it is one, so no truth value
comes with it.
-/
def execute (c : Connection) (sql : String) : Run Unit := do
  let _ ← c.runSql sql

def takeId : Run UInt64 :=
  modifyGet fun session =>
    let (id, ids) := session.ids.take
    (id, { session with ids })

end Connection

end ColumnStore
