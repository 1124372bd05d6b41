import ColumnStore.Proofs.Connection.Direct
import ColumnStore.Proofs.Row.Answers

/-! A statement that is answered in full gives the rows of the answer. What is asked for it is then known
too: the statement in one request, and in batch mode a ping before it.
-/

namespace ColumnStore

/-- The rows that a mode reads from a body. -/
def Mode.rows : Mode → List UInt8 → Except Error (List Row)
  | streaming, body => Row.collect (Row.decode [.ok body])
  | batch, body => Row.ofBody (Text.Utf8.decodeUnmarked body)

/-- A number of rows is read from its answer in either mode. -/
theorem Mode.rows_count (mode : Mode) {n : Nat} {body : List UInt8}
    (h : Row.CountBody n mode.format body) (room : n < UInt64.size)
    : ∃ rows, mode.rows body = .ok rows ∧ Connection.countOf rows = .ok (UInt64.ofNat n) := by
  cases mode with
  | streaming => exact Row.collect_decode_count h room
  | batch => exact Row.ofBody_count h room

theorem Mode.rows_blank (mode : Mode) {body : List UInt8} (h : Row.BlankBody body)
    : mode.rows body = .ok [] := by
  cases mode with
  | streaming => exact Row.collect_decode_blank h
  | batch => exact Row.ofBody_blank h

/-- The statements that were sent, oldest first. -/
def Http.statements (exchanges : List Http.Exchange) : List String :=
  ((exchanges.map (·.request)).filter (·.method = .post)).map (·.body)

@[simp] theorem Http.statements_append (before after : List Http.Exchange)
    : statements (before ++ after) = statements before ++ statements after := by
  simp [statements]

namespace Http.Server

variable (server : Http.Server) (past : List Http.Request)

/-- The server accepts a request and answers it in full. -/
def Answers (request : Http.Request) (body : List UInt8) : Prop :=
  ∃ r : Http.Response, server past request = .response r ∧ r.isSuccess ∧ r.isException = false
    ∧ r.isComplete ∧ r.body = body

/-- The server answers a ping as a live one does. -/
def Alive (e : Endpoint) : Prop :=
  ∃ r : Http.Response, server past e.pingRequest = .response r ∧ Endpoint.pingFault? r = none

end Http.Server

section Clients

variable {e : Endpoint} {server : Http.Server} {log : List Http.Exchange} {request : Http.Request}
  {r : Http.Response}

/-- An answer that is accepted is judged to be what it is. -/
theorem Endpoint.judged_of_accepted (success : r.isSuccess) (plain : r.isException = false)
    : judged (.ok r) = .ok r := by
  have fine : r.isSuccess ∧ !r.isException := ⟨success, by simp [plain]⟩
  exact if_pos fine

theorem Endpoint.run_ping_of_alive (named : e.pingRequest.url.withoutIdentity.canBeRequested)
    (reply : server (log.map (·.request)) e.pingRequest = .response r)
    (alive : pingFault? r = none)
    : e.ping.run server log = (.ok (), log ++ [⟨e.pingRequest, .response r⟩]) := by
  have heard : pinged e.pingRequest (.ok r) = .ok () := by simp [pinged, alive]
  rw [run_ping, if_pos named]
  change (pinged _ ((server _ _).received _), log ++ [⟨_, server _ _⟩]) = _
  rw [reply]
  exact congrArg (·, _) heard

theorem StreamingClient.run_query_of_answers {database sql : String}
    (sends : e.outgoing sql database .lines = .ok request)
    (reply : server (log.map (·.request)) request = .response r) (success : r.isSuccess)
    (plain : r.isException = false) (whole : r.isComplete)
    : (StreamingClient.query ⟨e, database⟩ sql).run server log
      = (Mode.streaming.rows r.body, log ++ [⟨request, .response r⟩]) := by
  have rows : result (Endpoint.judged ((Http.Reply.response r).received request))
      = Mode.streaming.rows r.body := by
    rw [Http.Reply.received, Endpoint.judged_of_accepted success plain]
    simp [result, chunks, whole, Mode.rows, Except.map, bind, Except.bind]
  rw [StreamingClient.query_eq]
  simp only [sends]
  change (result (Endpoint.judged ((server _ _).received _)), log ++ [⟨_, server _ _⟩]) = _
  rw [reply, rows]

theorem BatchClient.run_of_answers {database sql : String}
    (sends : e.outgoing sql database .whole = .ok request)
    (reply : server (log.map (·.request)) request = .response r) (success : r.isSuccess)
    (plain : r.isException = false) (whole : r.isComplete)
    : (BatchClient.run e sql database).run server log
      = (Mode.batch.rows r.body, log ++ [⟨request, .response r⟩]) := by
  have rows : outcome request (.response r) = Mode.batch.rows r.body := by
    rw [outcome, Http.Reply.received, Endpoint.judged_of_accepted success plain]
    simp [BatchClient.rows, Http.Response.text, whole, Mode.rows, bind, Except.bind]
  rw [BatchClient.run_eq]
  simp only [sends]
  change (outcome request (server _ _), log ++ [⟨_, server _ _⟩]) = _
  rw [reply, rows]

end Clients

namespace Connection

/-- The endpoint that the settings name, where its requests can be sent. -/
structure Reaches (c : Connection) (e : Endpoint) : Prop where
  endpoint : c.config.endpoint = .ok e
  identity : isHeaderValue e.username ∧ isHeaderValue e.password
  named
    : (e.base.withQuery (Url.formPairs (e.parameters c.config.database
        c.config.mode.format))).withoutIdentity.canBeRequested
  pinged : e.pingRequest.url.withoutIdentity.canBeRequested

/-- The request of a statement. -/
def request (c : Connection) (e : Endpoint) (sql : String) : Http.Request where
  method := .post
  url := e.base.withQuery (Url.formPairs (e.parameters c.config.database c.config.mode.format))
  credentials := some ⟨e.username, e.password⟩
  body := sql

/-- What is asked before a statement. -/
def opening (c : Connection) (e : Endpoint) : List Http.Request :=
  match c.config.mode with
  | .streaming => []
  | .batch => [e.pingRequest]

variable {c : Connection} {e : Endpoint}

/-- The requests of a statement say it alone. -/
theorem statements_of_requests {exchanges : List Http.Exchange} {sql : String}
    (asked : exchanges.map (·.request) = c.opening e ++ [c.request e sql])
    : Http.statements exchanges = [sql] := by
  rw [Http.statements, asked, opening]
  cases c.config.mode <;> rfl

theorem outgoing_of_reaches (reaches : c.Reaches e) (sql : String)
    : e.outgoing sql c.config.database c.config.mode.format = .ok (c.request e sql) := by
  have formed : e.statementRequest sql c.config.database c.config.mode.format
      = .ok (c.request e sql) := if_pos reaches.identity
  rw [Endpoint.outgoing, formed]
  exact if_pos reaches.named

/-- A live server that answers the statement gives it the rows of its answer. -/
theorem run_direct_of_answers (reaches : c.Reaches e) {sql : String} {body : List UInt8}
    (filled : (Text.trimmed sql).isEmpty = false) {server : Http.Server}
    {log : List Http.Exchange}
    (alive : c.config.mode = .batch → server.Alive (log.map (·.request)) e)
    (answered : server.Answers (log.map (·.request) ++ c.opening e)
      (c.request e (Text.trimmed sql)) body)
    : ∃ new, (c.direct sql).run server log = (c.config.mode.rows body, log ++ new)
      ∧ new.map (·.request) = c.opening e ++ [c.request e (Text.trimmed sql)] := by
  obtain ⟨r, reply, success, plain, whole, rfl⟩ := answered
  have sends := outgoing_of_reaches reaches (Text.trimmed sql)
  rw [direct_of_filled c filled, reaches.endpoint, run_wire_bind]
  cases mode : c.config.mode with
  | streaming =>
    have before : c.opening e = [] := by rw [opening, mode]
    rw [before, List.append_nil] at reply
    rw [mode] at sends
    refine ⟨_, StreamingClient.run_query_of_answers sends reply success plain whole, ?_⟩
    rw [before]
    rfl
  | batch =>
    have before : c.opening e = [e.pingRequest] := by rw [opening, mode]
    rw [mode] at sends
    obtain ⟨pong, heard, alive⟩ := alive mode
    have pinged := Endpoint.run_ping_of_alive reaches.pinged heard alive
    let exchange : Http.Exchange := ⟨e.pingRequest, .response pong⟩
    have heard_next : server ((log ++ [exchange]).map (·.request)) (c.request e (Text.trimmed sql))
        = .response r := by
      rw [List.map_append]
      rwa [before] at reply
    have answered := BatchClient.run_of_answers sends heard_next success plain whole
    refine ⟨[exchange, ⟨c.request e (Text.trimmed sql), .response r⟩],
      ?_, by rw [before]; rfl⟩
    change (e.ping >>= fun _ => BatchClient.run e (Text.trimmed sql) c.config.database).run server log
      = _
    rw [run_wire_bind, pinged]
    rw [List.append_assoc] at answered
    exact answered

-----------------------------------------------------------------------------------------
-- Counting and executing
-----------------------------------------------------------------------------------------

theorem acts_count (q : Query)
    : c.Acts (c.count q) (do
        let s ← q.compileCount c.dialect
        let rows ← c.direct (c.render s)
        countOf rows) :=
  (acts_reading _).bind fun _ => (acts_runSql _).bind fun _ => acts_reading _

theorem acts_execute (sql : String)
    : c.Acts (c.execute sql) (do
        let _ ← c.direct sql
        return ()) :=
  (acts_runSql sql).bind fun _ => acts_pure ()

/-- The statement that counts the rows of a table, as it is sent. -/
def countText (table : String) : String :=
  Text.trimmed ("select count(*) as aggregate from " ++ table)

/-- The count of a query without conditions and joins names the table alone. -/
theorem compileCount_of_plain {q : Query} (unconditional : q.wheres = []) (single : q.joins = [])
    (d : Dialect)
    : q.compileCount d
      = .ok (.text ("select count(*) as aggregate from " ++ q.table.sql d)) := by
  have source : q.compileSource d = .ok .empty := by
    rw [Query.compileSource, unconditional, single]
    rfl
  have whole : Statement.text ("select count(*) as aggregate " ++ q.table.fromClause d) ++ Statement.empty
      = Statement.text ("select count(*) as aggregate from " ++ q.table.sql d) := by
    change Statement.text (_ ++ (_ ++ _) ++ "") = _
    rw [String.append_empty, ← String.append_assoc]
    rfl
  rw [Query.compileCount, source]
  exact congrArg Except.ok whole

theorem render_text (c : Connection) (sql : String)
    : c.render (.text sql) = sql := by
  simp [render, Statement.render, Statement.write, Statement.text]

/-- A text that counts is never blank. -/
theorem isEmpty_trimmed_count (table : String)
    : (Text.trimmed ("select count(*) as aggregate from " ++ table)).isEmpty = false := by
  refine Text.isEmpty_trimmed (c := 's') ?_ (by decide)
  rw [String.toList_append]
  exact List.mem_append_left _ (by decide)

variable {session : Session} {server : Http.Server} {log : List Http.Exchange} {body : List UInt8}

/-- A count gives the number of rows that it is answered with. -/
theorem run_count_of_answers (reaches : c.Reaches e) (idle : session.IsIdle c.config) {q : Query}
    (unconditional : q.wheres = []) (single : q.joins = [])
    (alive : c.config.mode = .batch → server.Alive (log.map (·.request)) e)
    (answered : server.Answers (log.map (·.request) ++ c.opening e)
      (c.request e (countText (q.table.sql c.dialect))) body) {n : Nat}
    (counts : Row.CountBody n c.config.mode.format body) (room : n < UInt64.size)
    : ∃ later new, later.IsIdle c.config
      ∧ (c.count q).run session server log = ((.ok (UInt64.ofNat n), later), log ++ new)
      ∧ new.map (·.request)
        = c.opening e ++ [c.request e (countText (q.table.sql c.dialect))] := by
  obtain ⟨rows, read, counted⟩ := c.config.mode.rows_count counts room
  obtain ⟨new, run, asked⟩ := run_direct_of_answers reaches
    (isEmpty_trimmed_count (q.table.sql c.dialect)) alive answered
  obtain ⟨later, calm, -, acts⟩ := acts_count q session server log idle
  refine ⟨later, new, calm, ?_, asked⟩
  rw [acts, compileCount_of_plain unconditional single, run_wire_bind]
  change ((((c.direct (c.render (.text _)) >>= fun rows => liftM (countOf rows)).run server log).1,
    later), ((c.direct (c.render (.text _)) >>= fun rows => liftM (countOf rows)).run server log).2) = _
  rw [render_text, run_wire_bind, run, read]
  simp only [counted]
  rfl

/-- A statement that is executed and answered without rows succeeds. -/
theorem run_execute_of_answers (reaches : c.Reaches e) (idle : session.IsIdle c.config)
    {sql : String} (filled : (Text.trimmed sql).isEmpty = false)
    (alive : c.config.mode = .batch → server.Alive (log.map (·.request)) e)
    (answered : server.Answers (log.map (·.request) ++ c.opening e)
      (c.request e (Text.trimmed sql)) body)
    (blank : Row.BlankBody body)
    : ∃ later new, later.IsIdle c.config
      ∧ (c.execute sql).run session server log = ((.ok (), later), log ++ new)
      ∧ new.map (·.request) = c.opening e ++ [c.request e (Text.trimmed sql)] := by
  obtain ⟨new, run, asked⟩ := run_direct_of_answers reaches filled alive answered
  obtain ⟨later, calm, -, acts⟩ := acts_execute sql session server log idle
  refine ⟨later, new, calm, ?_, asked⟩
  rw [acts, run_wire_bind, run, c.config.mode.rows_blank blank]
  rfl

-----------------------------------------------------------------------------------------
-- A connection whose requests can be sent
-----------------------------------------------------------------------------------------

def ledger : Connection where
  config := { host := "[::1]", mode := .batch, async := true }

def ledgerEndpoint : Endpoint where
  base := { scheme := "http", host := "[::1]", port := some 8123, path := [""] }
  username := "default"
  password := ""
  readOnly := false

theorem reaches_ledger : ledger.Reaches ledgerEndpoint where
  endpoint := by
    have base : ledger.config.baseUrl = .ok ledgerEndpoint.base := by decide
    rw [Config.endpoint, base]
    rfl
  identity := by decide
  named := by decide +kernel
  pinged := by decide +kernel

/-- What a live server answers to a ping. -/
def pong : Http.Response where
  status := 200
  body := Text.Utf8.encode "Ok.\n".toList

theorem pingFault?_pong : Endpoint.pingFault? pong = none := by decide +kernel

/-- A live server with a body for every statement. -/
def answering (bodies : String → List UInt8) : Http.Server := fun _ request =>
  .response (match request.method with
    | .get => pong
    | .post => { status := 200, body := bodies request.body })

theorem answers_answering {bodies : String → List UInt8} {sql : String} {body : List UInt8}
    (given : bodies sql = body) (c : Connection) (e : Endpoint)
    (past : List Http.Request)
    : (answering bodies).Answers past (c.request e sql) body :=
  ⟨{ status := 200, body := bodies sql }, rfl, rfl, rfl, rfl, given⟩

end Connection

end ColumnStore
