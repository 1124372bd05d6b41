import ColumnStore.Proofs.Queue.History

/-! A batch client under any number of callers: whatever they do, they do it one atomic operation at a
time, and in any order. A running call does not hold the queue, so others submit and drain while its
statements are on their way.
-/

namespace ColumnStore.Queue

/-- A drained statement that has no result yet, with the call that drained it. -/
structure Flight where
  call : Nat
  statement : Pending
  /-- What was sent for the statement, once it was sent. -/
  request : Option Http.Request := none
deriving DecidableEq, Repr

def Flight.ticket (f : Flight) : Nat :=
  f.statement.ticket

/-- A client with what its callers hold. -/
structure Shared where
  client : BatchClient
  isDropped : Bool := false
  /-- How many calls have drained the queue so far; a call is named by its place among them. -/
  calls : Nat := 0
  /-- The calls that have not returned, each with the number that it will return. -/
  running : List (Nat × Nat) := []
  /-- The drained statements that have no result. -/
  flights : List Flight := []
  /-- The handles that are waited with. -/
  handles : List Submitted := []
  history : History := []

namespace Shared

def fresh (endpoint : Endpoint) (database : String) : Shared where
  client := { endpoint, database }

/-- Whether the result of a statement is still to come. -/
def IsOpen (s : Shared) (ticket : Nat) : Prop :=
  (∃ p ∈ s.client.pending, p.ticket = ticket) ∨ ∃ f ∈ s.flights, f.ticket = ticket

/-- The request of a drained statement, or why there is none. -/
def outgoing (s : Shared) (f : Flight) : Except Error Http.Request :=
  s.client.endpoint.outgoing f.statement.sql f.statement.database .whole

/-- The result of a drained statement goes to its handle. -/
def settle (s : Shared) (f : Flight) (answer : Except Error Http.Reply) (outcome : Outcome)
    : Shared :=
  { s with
    client := s.client.answer f.ticket outcome
    flights := s.flights.erase f
    history := .settled f.call f.ticket answer :: s.history }

/-- Nobody waits with a handle any more. -/
def release (s : Shared) (handle : Submitted) (event : Event) : Shared :=
  { s with
    client := s.client.forget handle.ticket
    handles := s.handles.erase handle
    history := event :: s.history }

/-- One operation of one caller, or of the server. -/
inductive Step : Shared → Shared → Prop where
  | useDatabase {s : Shared} (database : String) (alive : s.isDropped = false)
    : Step s { s with
        client := s.client.useDatabase database
        history := .databaseUsed database :: s.history }
  | submit {s : Shared} {handle : Submitted} {client : BatchClient} (sql : String)
      (alive : s.isDropped = false) (submits : s.client.submit sql = (handle, client))
    : Step s { s with
        client
        handles := handle :: s.handles
        history := .submitted handle :: s.history }
  | drain {s : Shared} {statements : List Pending} {client : BatchClient}
      (alive : s.isDropped = false) (drains : s.client.drain = (statements, client))
    : Step s { s with
        client
        calls := s.calls + 1
        running := (s.calls, statements.length) :: s.running
        flights := statements.map (Flight.mk s.calls · none) ++ s.flights
        history := .drained s.calls statements :: s.history }
  | send {s : Shared} {f : Flight} {request : Http.Request} (held : f ∈ s.flights)
      (unsent : f.request = none) (sends : s.outgoing f = .ok request)
    : Step s { s with
        flights := { f with request } :: s.flights.erase f
        history := .sent f.call f.ticket request :: s.history }
  | refuse {s : Shared} {f : Flight} {refusal : Error} (held : f ∈ s.flights)
      (unsent : f.request = none) (refused : s.outgoing f = .error refusal)
    : Step s (s.settle f (.error refusal) (.error refusal))
  | reply {s : Shared} {f : Flight} {request : Http.Request} (reply : Http.Reply)
      (held : f ∈ s.flights) (sent : f.request = some request)
    : Step s (s.settle f (.ok reply) (BatchClient.outcome request reply))
  | finish {s : Shared} {call count : Nat} (runs : (call, count) ∈ s.running)
      (settled : ∀ f ∈ s.flights, f.call ≠ call)
    : Step s { s with
        running := s.running.erase (call, count)
        history := .finished call count :: s.history }
  | receive {s : Shared} {handle : Submitted} (held : handle ∈ s.handles)
      (closed : ¬ s.IsOpen handle.ticket)
    : Step s (s.release handle (.received handle (s.client.result handle)))
  | dropHandle {s : Shared} {handle : Submitted} (held : handle ∈ s.handles)
    : Step s (s.release handle (.handleDropped handle))
  /-- A running call holds the client. -/
  | dropClient {s : Shared} (alive : s.isDropped = false) (idle : s.running = [])
    : Step s { s with
        client := s.client.discard
        isDropped := true
        history := .clientDropped s.client.pending :: s.history }

/-- What can become of a new client. -/
inductive Reachable (endpoint : Endpoint) (database : String) : Shared → Prop where
  | fresh : Reachable endpoint database (fresh endpoint database)
  | step {s t : Shared} (reached : Reachable endpoint database s) (step : Step s t)
    : Reachable endpoint database t

end Shared

end ColumnStore.Queue
