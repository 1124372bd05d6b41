import Mathlib.Logic.Relation
import ColumnStore.Proofs.Concurrent.Isolation
import ColumnStore.Proofs.Connection.Running

/-! A run without others beside it takes its pieces one after another. So what a connection does when
it runs a statement is one of the interleavings, with the same requests and the same registry.
-/

namespace ColumnStore

namespace Concurrent

open Relation (ReflTransGen)

-----------------------------------------------------------------------------------------
-- Pieces in a row
-----------------------------------------------------------------------------------------

/-- All requests that runs sent, oldest first. -/
def requests : List Event → List Http.Request
  | [] => []
  | .pinged _ request :: earlier => requests earlier ++ [request]
  | .sent _ _ request :: earlier => requests earlier ++ [request]
  | .forwarded _ _ request :: earlier => requests earlier ++ [request]
  | .submitted .. :: earlier => requests earlier

/-- Pieces that lead from one world to another, with the exchanges on the way. -/
structure Leads (s : World) (new : List Http.Exchange) (t : World) : Prop where
  path : ReflTransGen Step s t
  asks : requests t.history = requests s.history ++ new.map (·.request)

theorem Leads.trans {s t u : World} {new more : List Http.Exchange} (one : Leads s new t)
    (two : Leads t more u)
    : Leads s (new ++ more) u where
  path := one.path.trans two.path
  asks := by rw [two.asks, one.asks, List.map_append, List.append_assoc]

variable {r later : Registry} (task : Task) (others : List Task) (history : List Event)

/-- One piece of the first run leads on. -/
theorem Leads.move {next : Option Phase} {events : List Event} {new : List Http.Exchange}
    (move : Move r task later next events)
    (asks : requests (events ++ history) = requests history ++ new.map (·.request))
    : Leads ⟨r, task :: others, history⟩ new
        ⟨later, (next.map fun phase => { task with phase }).toList ++ others, events ++ history⟩ where
  path := .single (.move [] others rfl move)
  asks := asks

/-- A piece without a request leads on without an exchange. -/
theorem Leads.quiet {next : Option Phase} (move : Move r task later next [])
    : Leads ⟨r, task :: others, history⟩ []
        ⟨later, (next.map fun phase => { task with phase }).toList ++ others, history⟩ :=
  .move task others history move (List.append_nil _).symm

theorem Leads.leave : Leads ⟨r, task :: others, history⟩ [] ⟨r, others, history⟩ where
  path := .single (.leave [] others rfl)
  asks := (List.append_nil _).symm

-----------------------------------------------------------------------------------------
-- The parts of a run
-----------------------------------------------------------------------------------------

variable {task others history}

variable (server : Http.Server) (log : List Http.Exchange) {c : BatchClient}

/-- A drained statement is executed in two pieces, or in one where it is refused. -/
theorem leads_execute {handle : Submitted} {p : Pending} {more : List Pending}
    (found : r.clients[task.number]? = some (.batch c))
    : ∃ events new,
      Leads ⟨r, { task with phase := .executing handle (p :: more) [] } :: others, history⟩ new
        ⟨r.put task.number (.batch (c.execute p server log).1),
          { task with phase := .executing handle more [] } :: others, events ++ history⟩
      ∧ (c.execute p server log).2 = log ++ new := by
  cases formed : c.endpoint.outgoing p.sql p.database .whole with
  | error refusal =>
    have run : c.execute p server log = (c.answer p.ticket (.error refusal), log) := by
      rw [BatchClient.execute_eq, formed]
      rfl
    rw [run]
    have refuses : Move r { task with phase := .executing handle (p :: more) [] }
        (r.put task.number (.batch (c.answer p.ticket (.error refusal))))
        (some (.executing handle more [])) [] :=
      .refuse [] more found rfl formed
    exact ⟨[], [], .quiet _ others history refuses, (List.append_nil _).symm⟩
  | ok request =>
    let reply := server (log.map (·.request)) request
    have run : c.execute p server log
        = (c.answer p.ticket (BatchClient.outcome request reply), log ++ [⟨request, reply⟩]) := by
      rw [BatchClient.execute_eq, formed]
      rfl
    rw [run]
    have sends : Move r { task with phase := .executing handle (p :: more) [] } r
        (some (.executing handle more [(p.ticket, request)]))
        [.forwarded task.number p.ticket request] :=
      .forward [] more found rfl formed
    have answers : Move r { task with phase := .executing handle more [(p.ticket, request)] }
        (r.put task.number (.batch (c.answer p.ticket (BatchClient.outcome request reply))))
        (some (.executing handle more [])) [] :=
      .reply [] [] reply found rfl
    have first : Leads ⟨r, { task with phase := .executing handle (p :: more) [] } :: others, history⟩
        [⟨request, reply⟩] _ := .move _ others history sends rfl
    exact ⟨[.forwarded task.number p.ticket request], [⟨request, reply⟩],
      first.trans (.quiet _ others _ answers), rfl⟩

/-- The drained statements are executed one after another, by list induction. -/
theorem leads_foldlM_execute {handle : Submitted} (statements : List Pending)
    : ∀ (r : Registry) (c : BatchClient) (history : List Event) (log : List Http.Exchange),
      r.clients[task.number]? = some (.batch c) →
      ∃ events new,
        Leads ⟨r, { task with phase := .executing handle statements [] } :: others, history⟩ new
          ⟨r.put task.number (.batch (statements.foldlM BatchClient.execute c server log).1),
            { task with phase := .executing handle [] [] } :: others, events ++ history⟩
        ∧ (statements.foldlM BatchClient.execute c server log).2 = log ++ new := by
  induction statements with
  | nil =>
    intro r c history log found
    have same : r.put task.number (.batch c) = r := Registry.put_self found
    refine ⟨[], [], ⟨?_, (List.append_nil _).symm⟩, (List.append_nil _).symm⟩
    change ReflTransGen Step _ ⟨r.put task.number (.batch c), _, _⟩
    rw [same]
    exact .refl
  | cons p more ih =>
    intro r c history log found
    obtain ⟨events, new, path, after⟩ := @leads_execute r task others history server log c handle p
      more found
    obtain ⟨events', new', path', after'⟩ := ih _ (c.execute p server log).1 (events ++ history)
      (c.execute p server log).2 (put_batch found)
    rw [Registry.put_put] at path'
    have both : (p :: more).foldlM BatchClient.execute c server log
        = more.foldlM BatchClient.execute (c.execute p server log).1 server
            (c.execute p server log).2 := rfl
    refine ⟨events' ++ events, new ++ new', ?_, ?_⟩
    · rw [both, List.append_assoc]
      exact path.trans path'
    · rw [both, after', after, List.append_assoc]

/-- What a part of a run comes to is reached by pieces, with the same exchanges and the same registry. -/
def Reaches (log : List Http.Exchange) (s : World) (others : List Task) (ids : Numbering.Sequence)
    (run : (Except Error (List Row) × Session) × List Http.Exchange) : Prop :=
  ∃ t new result, Leads s new t ∧ t.tasks = others ∧ run = ((result, ⟨t.registry, ids⟩), log ++ new)

variable {ids : Numbering.Sequence}

theorem Reaches.after {log : List Http.Exchange} {s t : World} {new : List Http.Exchange}
    {run : (Except Error (List Row) × Session) × List Http.Exchange} (leads : Leads s new t)
    (reaches : Reaches (log ++ new) t others ids run)
    : Reaches log s others ids run := by
  obtain ⟨u, more, result, path, tasks, run⟩ := reaches
  exact ⟨u, new ++ more, result, leads.trans path, tasks, by rw [run, List.append_assoc]⟩

/-- A queued statement is submitted, drained with all others, executed and received. -/
theorem reaches_runQueued (found : r.clients[task.number]? = some (.batch c))
    (phase : task.phase = .live) (queues : task.connection.config.async = true)
    : Reaches log ⟨r, task :: others, history⟩ others ids
        ((Connection.runQueued task.number c task.sql).run ⟨r, ids⟩ server log) := by
  let queued := (c.submit task.sql).2
  let handle := (c.submit task.sql).1
  let drained := queued.drain.1.foldlM BatchClient.execute queued.drain.2 server log
  let submitted := .submitted task.connection task.number handle :: history
  have submits : Leads ⟨r, task :: others, history⟩ [] _ :=
    .move task others history (.submit found phase queues) (List.append_nil _).symm
  have drains := Leads.quiet { task with phase := .queued handle } others submitted
    (.drain (put_batch (d := queued) found) rfl)
  rw [Registry.put_put] at drains
  obtain ⟨events, new, executes, log_eq⟩ := @leads_foldlM_execute task others server handle
    queued.drain.1 _ queued.drain.2 submitted log (put_batch found)
  rw [Registry.put_put] at executes
  have finishes := @Leads.quiet (r.put task.number (.batch drained.1)) _
    { task with phase := .executing handle [] [] } others (events ++ submitted) _ (.finish rfl)
  have receives := Leads.quiet { task with phase := .waiting handle } others (events ++ submitted)
    (.receive (put_batch (d := drained.1) found) rfl)
  rw [Registry.put_put] at receives
  have path := (((submits.trans drains).trans executes).trans finishes).trans receives
  refine ⟨_, _, drained.1.result handle, path, rfl, ?_⟩
  rw [Connection.run_runQueued, Registry.put_put]
  simp only [List.nil_append, List.append_nil]
  rw [← log_eq]
  rfl

theorem Reaches.leave (error : Error)
    : Reaches log ⟨r, task :: others, history⟩ others ids ((.error error, ⟨r, ids⟩), log) :=
  ⟨_, [], .error error, .leave task others history, rfl, by rw [List.append_nil]⟩

/-- A statement that is sent at once goes to the client's database. -/
theorem reaches_write (found : r.clients[task.number]? = some (.batch c))
    (phase : task.phase = .live) (direct : task.connection.config.async = false)
    : Reaches log ⟨r, task :: others, history⟩ others ids
        ((Connection.overWire (c.write task.sql)).run ⟨r, ids⟩ server log) := by
  rw [Connection.run_overWire, BatchClient.write, BatchClient.run_eq]
  cases formed : c.endpoint.outgoing task.sql c.database .whole with
  | error refusal => exact .leave log refusal
  | ok request =>
    have chooses := Leads.quiet task others history (.choose found phase direct)
    let reply := server (log.map (·.request)) request
    have writes : Leads ⟨r, { task with phase := .writing c.database } :: others, history⟩
        [⟨request, reply⟩] _ := .move _ others history (.write found rfl formed) rfl
    exact ⟨_, _, BatchClient.outcome request reply, chooses.trans writes, rfl, rfl⟩

/-- The rows of a streaming client are asked for at once. -/
theorem reaches_query {c : StreamingClient} (found : r.clients[task.number]? = some (.streaming c))
    (phase : task.phase = .found)
    : Reaches log ⟨r, task :: others, history⟩ others ids
        ((Connection.overWire (c.query task.sql)).run ⟨r, ids⟩ server log) := by
  rw [Connection.run_overWire, StreamingClient.query_eq]
  cases formed : c.endpoint.outgoing task.sql c.database .lines with
  | error refusal => exact .leave log refusal
  | ok request =>
    let reply := server (log.map (·.request)) request
    have streams : Leads ⟨r, task :: others, history⟩ [⟨request, reply⟩] _ :=
      .move task others history (.stream found phase formed) rfl
    exact ⟨_, _, StreamingClient.result (Endpoint.judged (reply.received request)), streams, rfl, rfl⟩

/-- A statement goes on over a live server as its connection sends it. -/
theorem reaches_live (found : r.clients[task.number]? = some (.batch c))
    (phase : task.phase = .live)
    : Reaches log ⟨r, task :: others, history⟩ others ids
        ((if task.connection.config.async then Connection.runQueued task.number c task.sql
          else Connection.overWire (c.write task.sql)).run ⟨r, ids⟩ server log) := by
  cases queues : task.connection.config.async with
  | true => exact reaches_runQueued server log found phase queues
  | false => exact reaches_write server log found phase queues

/-- A run over a batch client selects the database, pings, and goes on if the server is there. -/
theorem reaches_runBatch (found : r.clients[task.number]? = some (.batch c))
    (phase : task.phase = .found)
    : Reaches log ⟨r, task :: others, history⟩ others ids
        ((task.connection.runBatch task.number c task.sql).run ⟨r, ids⟩ server log) := by
  let selected := c.useDatabase task.connection.config.database
  let request := selected.endpoint.pingRequest
  have placed := put_batch (d := selected) found
  refine Reaches.after (.quiet task others history (.select found phase)) ?_
  rw [Connection.runBatch, Connection.keep_bind, Connection.run_overWire_bind, List.append_nil]
  by_cases named : request.url.withoutIdentity.canBeRequested
  · let reply := server (log.map (·.request)) request
    have pings : Leads
        ⟨r.put task.number (.batch selected), { task with phase := .selected } :: others, history⟩
        [⟨request, reply⟩] _ := .move _ others history (.ping placed rfl) rfl
    have pinged : selected.endpoint.ping.run server log
        = (Endpoint.pinged request (reply.received request), log ++ [⟨request, reply⟩]) := by
      rw [Endpoint.run_ping, if_pos named]
      rfl
    refine Reaches.after pings ?_
    rw [pinged]
    cases verdict : Endpoint.pinged request (reply.received request) with
    | error refusal => exact .leave _ refusal
    | ok alive =>
      refine Reaches.after (.quiet { task with phase := .pinging } others _
        (.alive _ placed rfl verdict)) ?_
      rw [List.append_nil]
      exact @reaches_live _ { task with phase := .live } others _ server _ selected ids placed rfl
  · have pinged : selected.endpoint.ping.run server log
        = (Endpoint.pinged request (.error (.badTarget request.urlText)), log) := by
      rw [Endpoint.run_ping, if_neg named]
      rfl
    rw [pinged]
    exact .leave log _

/-- A statement that a connection runs is one of the interleavings of a reachable world. -/
theorem reaches_runSql {s : World} (reached : Reachable s) (connection : Connection) (text : String)
    : Reaches log s s.tasks ids ((connection.runSql text).run ⟨s.registry, ids⟩ server log) := by
  have stays (result : Except Error (List Row))
      : Reaches log s s.tasks ids ((result, ⟨s.registry, ids⟩), log) :=
    ⟨s, [], result, ⟨.refl, (List.append_nil _).symm⟩, rfl, by rw [List.append_nil]⟩
  cases filled : (Text.trimmed text).isEmpty with
  | true =>
    rw [Connection.runSql_of_blank connection filled]
    exact stays (.ok [])
  | false =>
    rw [Connection.runSql_of_filled connection filled, Connection.run_bind, Connection.run_client]
    cases looked : s.registry.lookup connection.config with
    | error refusal => exact stays (.error refusal)
    | ok both =>
      obtain ⟨⟨number, client⟩, later⟩ := both
      obtain ⟨found, -⟩ := Registry.lookup_serves reached.sound.safe.sound looked
      let task : Task := ⟨connection, Text.trimmed text, number, .found⟩
      have starts : Leads s [] ⟨later, task :: s.tasks, s.history⟩ :=
        ⟨.single (.start connection text filled looked), (List.append_nil _).symm⟩
      refine Reaches.after starts ?_
      rw [List.append_nil]
      cases client with
      | streaming c => exact @reaches_query _ task _ _ server log _ c found rfl
      | batch c => exact @reaches_runBatch _ task _ _ server log c _ found rfl

end Concurrent

end ColumnStore
