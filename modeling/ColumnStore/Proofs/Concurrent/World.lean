import ColumnStore.Connection.Basic
import ColumnStore.Proofs.Concurrent.Identity

/-! Connections that share a registry run their statements side by side. A run is cut at each point
where another may come in between, and every piece reads the shared clients anew.
-/

namespace ColumnStore.Concurrent

/-- How far the run of a statement has come. -/
inductive Phase where
  /-- The client was looked up. -/
  | found
  /-- The database was selected. -/
  | selected
  /-- The ping is on its way. -/
  | pinging
  /-- The server is there. -/
  | live
  /-- The statement is to be sent at once, to this database. -/
  | writing (database : String)
  /-- The statement is queued. -/
  | queued (handle : Submitted)
  /-- The queue was drained: some statements are still to be sent, and some requests to be answered. -/
  | executing (handle : Submitted) (unsent : List Pending) (sent : List (Nat × Http.Request))
  /-- All is executed, and the result of the statement is waited for. -/
  | waiting (handle : Submitted)

/-- A statement that a connection runs over a client. -/
structure Task where
  connection : Connection
  sql : String
  /-- The number of the client. -/
  number : Nat
  phase : Phase := .found

/-- What runs leave behind. -/
inductive Event where
  | pinged (connection : Connection) (request : Http.Request)
  /-- A run sent its own statement. -/
  | sent (connection : Connection) (sql : String) (request : Http.Request)
  /-- A run queued its statement with a client. -/
  | submitted (connection : Connection) (number : Nat) (handle : Submitted)
  /-- A run, maybe another one, sent a statement that was queued with a client. -/
  | forwarded (number ticket : Nat) (request : Http.Request)

/-- One piece of a run: what it does to the registry, where the run is then if it goes on, and what
it leaves behind.
-/
inductive Move (r : Registry) (task : Task) : Registry → Option Phase → List Event → Prop where
  | stream {c : StreamingClient} {request : Http.Request}
      (client : r.clients[task.number]? = some (.streaming c)) (phase : task.phase = .found)
      (sends : c.endpoint.outgoing task.sql c.database .lines = .ok request)
    : Move r task r none [.sent task.connection task.sql request]
  | select {c : BatchClient}
      (client : r.clients[task.number]? = some (.batch c)) (phase : task.phase = .found)
    : Move r task
        (r.put task.number (.batch (c.useDatabase task.connection.config.database)))
        (some .selected) []
  | ping {c : BatchClient}
      (client : r.clients[task.number]? = some (.batch c)) (phase : task.phase = .selected)
    : Move r task r (some .pinging) [.pinged task.connection c.endpoint.pingRequest]
  | alive {c : BatchClient} (answer : Except TransferFault Http.Response)
      (client : r.clients[task.number]? = some (.batch c)) (phase : task.phase = .pinging)
      (alive : Endpoint.pinged c.endpoint.pingRequest answer = .ok ())
    : Move r task r (some .live) []
  | choose {c : BatchClient}
      (client : r.clients[task.number]? = some (.batch c)) (phase : task.phase = .live)
      (direct : task.connection.config.async = false)
    : Move r task r (some (.writing c.database)) []
  | write {c : BatchClient} {database : String} {request : Http.Request}
      (client : r.clients[task.number]? = some (.batch c)) (phase : task.phase = .writing database)
      (sends : c.endpoint.outgoing task.sql database .whole = .ok request)
    : Move r task r none [.sent task.connection task.sql request]
  | submit {c : BatchClient}
      (client : r.clients[task.number]? = some (.batch c)) (phase : task.phase = .live)
      (queues : task.connection.config.async = true)
    : Move r task (r.put task.number (.batch (c.submit task.sql).2))
        (some (.queued (c.submit task.sql).1))
        [.submitted task.connection task.number (c.submit task.sql).1]
  | drain {c : BatchClient} {handle : Submitted}
      (client : r.clients[task.number]? = some (.batch c)) (phase : task.phase = .queued handle)
    : Move r task (r.put task.number (.batch c.drain.2))
        (some (.executing handle c.drain.1 [])) []
  | forward {c : BatchClient} {handle : Submitted} {p : Pending} {sent : List (Nat × Http.Request)}
      {request : Http.Request} (before after : List Pending)
      (client : r.clients[task.number]? = some (.batch c))
      (phase : task.phase = .executing handle (before ++ p :: after) sent)
      (sends : c.endpoint.outgoing p.sql p.database .whole = .ok request)
    : Move r task r (some (.executing handle (before ++ after) ((p.ticket, request) :: sent)))
        [.forwarded task.number p.ticket request]
  | refuse {c : BatchClient} {handle : Submitted} {p : Pending} {sent : List (Nat × Http.Request)}
      {refusal : Error} (before after : List Pending)
      (client : r.clients[task.number]? = some (.batch c))
      (phase : task.phase = .executing handle (before ++ p :: after) sent)
      (refused : c.endpoint.outgoing p.sql p.database .whole = .error refusal)
    : Move r task (r.put task.number (.batch (c.answer p.ticket (.error refusal))))
        (some (.executing handle (before ++ after) sent)) []
  | reply {c : BatchClient} {handle : Submitted} {unsent : List Pending} {ticket : Nat}
      {request : Http.Request} (before after : List (Nat × Http.Request)) (reply : Http.Reply)
      (client : r.clients[task.number]? = some (.batch c))
      (phase : task.phase = .executing handle unsent (before ++ (ticket, request) :: after))
    : Move r task
        (r.put task.number (.batch (c.answer ticket (BatchClient.outcome request reply))))
        (some (.executing handle unsent (before ++ after))) []
  | finish {handle : Submitted} (phase : task.phase = .executing handle [] [])
    : Move r task r (some (.waiting handle)) []
  /-- When a result is there does not matter to any request, so it is left open. -/
  | receive {c : BatchClient} {handle : Submitted}
      (client : r.clients[task.number]? = some (.batch c)) (phase : task.phase = .waiting handle)
    : Move r task (r.put task.number (.batch (c.forget handle.ticket))) none []

/-- The shared registry with all that runs over it. -/
structure World where
  registry : Registry := {}
  tasks : List Task := []
  history : List Event := []

/-- One piece of any run, or a reset of the registry. -/
inductive Step : World → World → Prop where
  | start {s : World} {found : Nat × Client} {registry : Registry} (connection : Connection)
      (text : String) (filled : (Text.trimmed text).isEmpty = false)
      (looked : s.registry.lookup connection.config = .ok (found, registry))
    : Step s { s with
        registry
        tasks := ⟨connection, Text.trimmed text, found.1, .found⟩ :: s.tasks }
  | move {s : World} {registry : Registry} {task : Task} {next : Option Phase} {events : List Event}
      (before after : List Task) (tasks : s.tasks = before ++ task :: after)
      (move : Move s.registry task registry next events)
    : Step s {
        registry
        tasks := before ++ (next.map fun phase => { task with phase }).toList ++ after
        history := events ++ s.history }
  /-- A run fails, or nobody waits for it any more. -/
  | leave {s : World} {task : Task} (before after : List Task)
      (tasks : s.tasks = before ++ task :: after)
    : Step s { s with tasks := before ++ after }
  | reset {s : World} (config : Config)
    : Step s { s with registry := (s.registry.reset config).2 }

/-- What can come of a new registry. -/
inductive Reachable : World → Prop where
  | new : Reachable {}
  | step {s t : World} (reached : Reachable s) (step : Step s t) : Reachable t

end ColumnStore.Concurrent
