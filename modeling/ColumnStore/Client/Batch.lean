import ColumnStore.Client.Endpoint
import ColumnStore.Row.Body

/-! A batch client reads whole answers. A statement is sent at once, or queued with the database
of that moment and sent when the queue is next executed; its handle then gets its own result.
-/

namespace ColumnStore

abbrev Outcome := Except Error (List Row)

/-- A queued statement. -/
structure Pending where
  ticket : Nat
  sql : String
  database : String
deriving DecidableEq, Repr

/-- The handle of a queued statement. -/
structure Submitted where
  ticket : Nat
  sql : String
deriving DecidableEq, Repr

/-- A client with a queue. Results wait in it until their handles take them. -/
structure BatchClient where
  endpoint : Endpoint
  /-- The database of statements sent from now on. -/
  database : String
  /-- The queue, oldest first. -/
  pending : List Pending := []
  /-- How many statements were ever queued. -/
  issued : Nat := 0
  /-- The results that no handle has taken yet. -/
  answers : List (Nat × Outcome) := []

namespace BatchClient

def useDatabase (c : BatchClient) (database : String) : BatchClient :=
  { c with database }

def submit (c : BatchClient) (sql : String) : Submitted × BatchClient :=
  (⟨c.issued, sql⟩,
    { c with
      pending := c.pending ++ [⟨c.issued, sql, c.database⟩]
      issued := c.issued + 1 })

/-- Takes all statements out of the queue. -/
def drain (c : BatchClient) : List Pending × BatchClient :=
  (c.pending, { c with pending := [] })

/-- Keeps the result of a statement for its handle. -/
def answer (c : BatchClient) (ticket : Nat) (outcome : Outcome) : BatchClient :=
  { c with answers := c.answers ++ [(ticket, outcome)] }

/-- The result that waits for a handle. One that has none was discarded with its statement. -/
def result (c : BatchClient) (handle : Submitted) : Outcome :=
  (c.answers.lookup handle.ticket).getD (.error (.notExecuted handle.sql))

/-- Drops the result of a handle that nobody waits with any more. -/
def forget (c : BatchClient) (ticket : Nat) : BatchClient :=
  { c with answers := c.answers.filter (·.1 ≠ ticket) }

/-- The client after its end: what is queued is discarded, and results stay for their handles. -/
def discard (c : BatchClient) : BatchClient :=
  { c with pending := [] }

def rows (r : Http.Response) : Outcome :=
  match r.text with
  | .error fault => .error (.transfer fault)
  | .ok text => Row.ofBody text

/-- Sends a statement and reads the whole answer. -/
def run (e : Endpoint) (sql database : String) : ExceptT Error Http.Wire (List Row) := do
  let response ← e.send sql database .whole
  rows response

/-- Sends a statement at once. -/
def write (c : BatchClient) (sql : String) : ExceptT Error Http.Wire (List Row) :=
  run c.endpoint sql c.database

/-- Sends a drained statement and keeps its result. -/
def execute (c : BatchClient) (p : Pending) : Http.Wire BatchClient := do
  let outcome ← (run c.endpoint p.sql p.database).run
  return c.answer p.ticket outcome

/-- Sends all queued statements and gives their number; failures go to the handles. -/
def executePending (c : BatchClient) : Http.Wire (Nat × BatchClient) := do
  let (drained, c) := c.drain
  let c ← drained.foldlM execute c
  return (drained.length, c)

end BatchClient

end ColumnStore
