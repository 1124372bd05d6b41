import ColumnStore.Http.Offline
import ColumnStore.Proofs.Connection.Failing

/-! A statement goes in one of a few ways: no request can go out for it, the ping before it is not well
answered, or it is sent and its answer gives the rows. So of a statement that is not sent the cause is
known.
-/

namespace ColumnStore.Connection

variable {c : Connection}

-----------------------------------------------------------------------------------------
-- What a statement leaves in the log
-----------------------------------------------------------------------------------------

/-- Why a request does not go out: the settings name no server, or no request can be formed that names
it and whom it is from.
-/
inductive Unsent (c : Connection) : Error → Prop
  | server {e : Error} (h : c.config.endpoint = .error e) : Unsent c e
  | ping {endpoint : Endpoint} (named : c.config.endpoint = .ok endpoint)
      (h : endpoint.pingRequest.url.withoutIdentity.canBeRequested = false)
    : Unsent c (.ping endpoint.pingRequest.url.text
        (TransferFault.badTarget endpoint.pingRequest.urlText).text)
  | statement {endpoint : Endpoint} {sql : String} {e : Error}
      (named : c.config.endpoint = .ok endpoint)
      (h : endpoint.outgoing sql c.config.database c.config.mode.format = .error e)
    : Unsent c e

/-- What stands in the log right before a statement: in batch mode a ping that was well answered. -/
inductive Opening (c : Connection) : List Http.Exchange → Prop
  | streaming (mode : c.config.mode = .streaming) : Opening c []
  | batch {endpoint : Endpoint} {r : Http.Response} (mode : c.config.mode = .batch)
      (named : c.config.endpoint = .ok endpoint) (pong : IsPong r)
    : Opening c [⟨endpoint.pingRequest, .response r⟩]

/-- Why a statement is not sent after some requests, with the error that tells it and with what was
asked nevertheless: no request can go out, or in batch mode the server does not answer the ping well.
-/
inductive Withheld (c : Connection) (server : Http.Server) (past : List Http.Request)
    : Error → List Http.Exchange → Prop
  | unopened {e : Error} (h : c.Unsent e) : Withheld c server past e []
  | unpinged {endpoint : Endpoint} {reply : Http.Reply} {e : Error} (mode : c.config.mode = .batch)
      (named : c.config.endpoint = .ok endpoint) (given : server past endpoint.pingRequest = reply)
      (h : Endpoint.pinged endpoint.pingRequest (reply.received endpoint.pingRequest) = .error e)
    : Withheld c server past e [⟨endpoint.pingRequest, reply⟩]
  | unsent {opening : List Http.Exchange} {e : Error} (opened : c.Opening opening) (h : c.Unsent e)
    : Withheld c server past e opening

/-- How a statement can go after some requests: what it gives, and what it leaves in the log. -/
inductive Asked (c : Connection) (server : Http.Server) (past : List Http.Request) (sql : String)
    : Except Error (List Row) → List Http.Exchange → Prop
  | withheld {e : Error} {new : List Http.Exchange} (h : c.Withheld server past e new)
    : Asked c server past sql (.error e) new
  | sent {opening : List Http.Exchange} {request : Http.Request} {reply : Http.Reply}
      (opened : c.Opening opening) (statement : request.method = .post) (body : request.body = sql)
      (given : server (past ++ opening.map (·.request)) request = reply)
    : Asked c server past sql (c.answered request reply) (opening ++ [⟨request, reply⟩])

theorem pinged_eq_ok {request : Http.Request} {reply : Http.Reply}
    (h : Endpoint.pinged request (reply.received request) = .ok ())
    : ∃ r, reply = .response r ∧ IsPong r := by
  cases received : reply.received request with
  | error fault =>
    rw [received] at h
    cases h
  | ok r =>
    refine ⟨r, Http.Reply.received_eq_ok.1 received, pingFault?_eq_none_iff.1 ?_⟩
    rw [received, Endpoint.pinged] at h
    cases fault : Endpoint.pingFault? r with
    | none => rfl
    | some reason => simp [fault] at h

/-- The conversation of a statement without what opens it. -/
def statement (c : Connection) (endpoint : Endpoint) (sql : String)
    : ExceptT Error Http.Wire (List Row) :=
  match c.config.mode with
  | .streaming => StreamingClient.query ⟨endpoint, c.config.database⟩ sql
  | .batch => BatchClient.run endpoint sql c.config.database

theorem direct_eq (c : Connection) {sql : String} (filled : (Text.trimmed sql).isEmpty = false)
    : c.direct sql = (do
        let endpoint ← c.config.endpoint
        match c.config.mode with
        | .streaming => c.statement endpoint (Text.trimmed sql)
        | .batch => do
          endpoint.ping
          c.statement endpoint (Text.trimmed sql)) := by
  rw [direct_of_filled c filled]
  unfold statement
  cases c.config.mode <;> rfl

/-- A statement is one exchange, or none where no request can go out. -/
theorem run_statement (c : Connection) (endpoint : Endpoint) (sql : String)
    : (c.statement endpoint sql).run
      = match endpoint.outgoing sql c.config.database c.config.mode.format with
        | .error refusal => pure (.error refusal)
        | .ok request => c.answered request <$> Http.exchange request := by
  unfold statement
  cases mode : c.config.mode with
  | streaming =>
    have same (request : Http.Request) (reply : Http.Reply)
        : StreamingClient.result (Endpoint.judged (reply.received request))
          = c.answered request reply := by
      rw [answered, mode]
      cases Endpoint.judged (reply.received request) <;> rfl
    simp only [StreamingClient.query_eq, same]
    rfl
  | batch =>
    have same : BatchClient.outcome = c.answered := by
      funext request reply
      rw [answered, mode]
      rfl
    simp only [BatchClient.run_eq, same]
    rfl

/-- After what opens it a statement goes in one of its ways. -/
theorem asked_statement {endpoint : Endpoint} (named : c.config.endpoint = .ok endpoint)
    {opening : List Http.Exchange} (opened : c.Opening opening) (sql : String)
    (server : Http.Server) (log : List Http.Exchange)
    : ∃ new, ((c.statement endpoint sql).run server (log ++ opening)).2 = log ++ new
      ∧ c.Asked server (log.map (·.request)) sql
        ((c.statement endpoint sql).run server (log ++ opening)).1 new := by
  rw [run_statement]
  cases formed : endpoint.outgoing sql c.config.database c.config.mode.format with
  | error e => exact ⟨opening, rfl, .withheld (.unsent opened (.statement named formed))⟩
  | ok request =>
    have shape := Endpoint.outgoing_eq_ok formed
    let reply := server ((log ++ opening).map (·.request)) request
    have exchanged : (c.answered request <$> Http.exchange request) server (log ++ opening)
        = (c.answered request reply, log ++ (opening ++ [⟨request, reply⟩])) := by
      rw [← List.append_assoc]
      rfl
    refine ⟨opening ++ [⟨request, reply⟩], congrArg (·.2) exchanged, ?_⟩
    exact .sent opened (by rw [shape]) (by rw [shape]) (by rw [← List.map_append])

/-- In batch mode a statement goes out only behind a ping that was well answered. -/
theorem asked_pinged {endpoint : Endpoint} (named : c.config.endpoint = .ok endpoint)
    (mode : c.config.mode = .batch) (sql : String) (server : Http.Server)
    (log : List Http.Exchange)
    : ∃ new, ((endpoint.ping >>= fun _ => c.statement endpoint sql).run server log).2 = log ++ new
      ∧ c.Asked server (log.map (·.request)) sql
        ((endpoint.ping >>= fun _ => c.statement endpoint sql).run server log).1 new := by
  rw [run_wire_bind, Endpoint.run_ping]
  cases requestable : endpoint.pingRequest.url.withoutIdentity.canBeRequested with
  | false => exact ⟨[], (List.append_nil log).symm, .withheld (.unopened (.ping named requestable))⟩
  | true =>
    let reply := server (log.map (·.request)) endpoint.pingRequest
    have exchanged : ((fun reply : Http.Reply =>
        Endpoint.pinged endpoint.pingRequest (reply.received endpoint.pingRequest))
          <$> Http.exchange endpoint.pingRequest) server log
        = (Endpoint.pinged endpoint.pingRequest (reply.received endpoint.pingRequest),
            log ++ [⟨endpoint.pingRequest, reply⟩]) := rfl
    rw [if_pos rfl, exchanged]
    cases heard : Endpoint.pinged endpoint.pingRequest (reply.received endpoint.pingRequest) with
    | error e =>
      exact ⟨[⟨endpoint.pingRequest, reply⟩], rfl, .withheld (.unpinged mode named rfl heard)⟩
    | ok alive =>
      obtain ⟨r, answer, pong⟩ := pinged_eq_ok heard
      rw [answer]
      exact asked_statement named (.batch mode named pong) sql server log

/-- A text that is not blank goes in one of the ways of a statement. -/
theorem asked_direct {sql : String} (filled : (Text.trimmed sql).isEmpty = false)
    (server : Http.Server) (log : List Http.Exchange)
    : ∃ new, ((c.direct sql).run server log).2 = log ++ new
      ∧ c.Asked server (log.map (·.request)) (Text.trimmed sql)
        ((c.direct sql).run server log).1 new := by
  rw [direct_eq c filled, run_wire_bind]
  cases named : c.config.endpoint with
  | error e => exact ⟨[], (List.append_nil log).symm, .withheld (.unopened (.server named))⟩
  | ok endpoint =>
    cases mode : c.config.mode with
    | streaming =>
      have sent := asked_statement named (.streaming mode) (Text.trimmed sql) server log
      rwa [List.append_nil] at sent
    | batch => exact asked_pinged named mode (Text.trimmed sql) server log

-----------------------------------------------------------------------------------------
-- Whether a statement is sent
-----------------------------------------------------------------------------------------

variable {server : Http.Server} {past : List Http.Request}

theorem Opening.statements {opening : List Http.Exchange} (h : c.Opening opening)
    : Http.statements opening = [] := by
  cases h <;> rfl

/-- What is asked for a statement that is sent is that statement alone. -/
theorem Opening.statements_concat {opening : List Http.Exchange} (h : c.Opening opening)
    {request : Http.Request} (statement : request.method = .post) (reply : Http.Reply)
    : Http.statements (opening ++ [⟨request, reply⟩]) = [request.body] := by
  rw [Http.statements_append, h.statements]
  simp [Http.statements, statement]

/-- A statement that gives rows is sent, and it is the last that is: the rows are read from its answer. -/
theorem Asked.of_ok {sql : String} {rows : List Row} {new : List Http.Exchange}
    (h : c.Asked server past sql (.ok rows) new)
    : Http.statements new = [sql]
      ∧ ∃ request r, ⟨request, .response r⟩ ∈ new ∧ request.body = sql
        ∧ c.config.mode.read r = .ok rows := by
  generalize given : Except.ok rows = result at h
  cases h with
  | withheld => cases given
  | @sent opening request reply opened statement body =>
    obtain ⟨r, rfl, read⟩ := answered_eq_ok given.symm
    exact ⟨body ▸ opened.statements_concat statement _, request, r, by simp, body, read.trans given⟩

/-- What is asked for a statement that is withheld is no statement. -/
theorem Withheld.statements {e : Error} {new : List Http.Exchange}
    (h : c.Withheld server past e new)
    : Http.statements new = [] := by
  cases h with
  | unopened => rfl
  | unpinged => rfl
  | unsent opened => exact opened.statements

/-- A statement is sent once and no other is, or none is and the run fails with what withheld it. -/
def SendsOnce {α : Type} (c : Connection) (server : Http.Server) (past : List Http.Request)
    (sql : String) (result : Except Error α) (new : List Http.Exchange) : Prop :=
  Http.statements new = [sql]
    ∨ Http.statements new = [] ∧ ∃ e, result = .error e ∧ c.Withheld server past e new

theorem Asked.sendsOnce {sql : String} {result : Except Error (List Row)}
    {new : List Http.Exchange} (h : c.Asked server past sql result new)
    : c.SendsOnce server past sql result new := by
  cases h with
  | withheld h => exact .inr ⟨h.statements, _, rfl, h⟩
  | sent opened statement body => exact .inl (body ▸ opened.statements_concat statement _)

/-- Where the requests of the settings can be sent, no request stays behind. -/
theorem Reaches.not_unsent {endpoint : Endpoint} (reaches : c.Reaches endpoint) (e : Error)
    : ¬ c.Unsent e := by
  have only {other : Endpoint} (named : c.config.endpoint = .ok other) : endpoint = other :=
    Except.ok.inj (reaches.endpoint.symm.trans named)
  intro unsent
  cases unsent with
  | server nowhere => cases reaches.endpoint.symm.trans nowhere
  | ping named refused =>
    obtain rfl := only named
    cases reaches.pinged.symm.trans refused
  | @statement _ sql _ named refused =>
    obtain rfl := only named
    cases (outgoing_of_reaches reaches sql).symm.trans refused

/-- A live server that can be reached withholds no statement. -/
theorem Reaches.not_withheld {endpoint : Endpoint} (reaches : c.Reaches endpoint)
    (alive : server.Alive past endpoint) {e : Error} {new : List Http.Exchange}
    : ¬ c.Withheld server past e new := by
  intro withheld
  cases withheld with
  | unopened unsent | unsent _ unsent => exact reaches.not_unsent e unsent
  | unpinged _ named given unheard =>
    obtain rfl := Except.ok.inj (reaches.endpoint.symm.trans named)
    obtain ⟨r, answer, well⟩ := alive
    obtain rfl := given.symm.trans answer
    simp [Endpoint.pinged, Http.Reply.received, well] at unheard

/-- A live server that can be reached is sent the statement. -/
theorem SendsOnce.sent {α : Type} {endpoint : Endpoint} {sql : String} {result : Except Error α}
    {new : List Http.Exchange} (h : c.SendsOnce server past sql result new)
    (reaches : c.Reaches endpoint) (alive : server.Alive past endpoint)
    : Http.statements new = [sql] :=
  h.resolve_right fun ⟨_, _, _, withheld⟩ => reaches.not_withheld alive withheld

-----------------------------------------------------------------------------------------
-- Runs of a statement
-----------------------------------------------------------------------------------------

/-- A run of a statement: one of the ways of a statement, or nothing for a text of blanks. -/
theorem run_runSql (sql : String) {session : Session} (idle : session.IsIdle c.config)
    (server : Http.Server) (log : List Http.Exchange)
    : ∃ later result new, later.IsIdle c.config
      ∧ (c.runSql sql).run session server log = ((result, later), log ++ new)
      ∧ ((Text.trimmed sql).isEmpty = true ∧ result = .ok [] ∧ new = []
        ∨ (Text.trimmed sql).isEmpty = false
          ∧ c.Asked server (log.map (·.request)) (Text.trimmed sql) result new) := by
  cases blank : (Text.trimmed sql).isEmpty with
  | true =>
    refine ⟨session, .ok [], [], idle, ?_, .inl ⟨rfl, rfl, rfl⟩⟩
    rw [runSql_of_blank c blank, List.append_nil]
    rfl
  | false =>
    obtain ⟨later, still, -, run⟩ := acts_runSql sql session server log idle
    obtain ⟨new, sent, asked⟩ := asked_direct (c := c) blank server log
    exact ⟨later, _, new, still, by rw [run, sent], .inr ⟨rfl, asked⟩⟩

/-- A text without blanks at its ends is sent once and as it is, or withheld. -/
theorem run_execute {sql : String} (whole : Text.trimmed sql = sql)
    (filled : (Text.trimmed sql).isEmpty = false) {session : Session}
    (idle : session.IsIdle c.config) (server : Http.Server) (log : List Http.Exchange)
    : ∃ later result new, later.IsIdle c.config
      ∧ (c.execute sql).run session server log = ((result, later), log ++ new)
      ∧ c.SendsOnce server (log.map (·.request)) sql result new := by
  obtain ⟨later, result, new, still, run, ⟨blank, -⟩ | ⟨-, asked⟩⟩ :=
    run_runSql sql idle server log
  · cases filled.symm.trans blank
  rw [whole] at asked
  refine ⟨later, result.map fun _ => (), new, still, ?_, ?_⟩
  · rw [execute, run_bind, run]
    cases result <;> rfl
  · refine asked.sendsOnce.imp id fun ⟨silent, e, failed, withheld⟩ => ⟨silent, e, ?_, withheld⟩
    rw [failed]
    rfl

/-- Without a network no statement gives rows. -/
theorem run_runSql_offline {sql : String} (filled : (Text.trimmed sql).isEmpty = false)
    {session : Session} (idle : session.IsIdle c.config) (log : List Http.Exchange)
    : ∃ later e new, (c.runSql sql).run session Http.offline log = ((.error e, later), log ++ new) := by
  obtain ⟨later, result, new, -, run, ⟨blank, -⟩ | ⟨-, asked⟩⟩ :=
    run_runSql sql idle Http.offline log
  · cases filled.symm.trans blank
  cases asked with
  | @withheld e _ _ => exact ⟨later, e, new, run⟩
  | @sent opening request _ opened statement body given =>
    obtain rfl := given
    rw [answered, Http.received_offline] at run
    exact ⟨later, _, _, run⟩

end ColumnStore.Connection
