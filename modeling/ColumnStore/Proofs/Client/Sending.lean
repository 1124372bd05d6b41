import ColumnStore.Client.Batch
import ColumnStore.Client.Streaming

/-! A statement is sent in two halves with the server between them: a request is formed, and later
its answer is read. Each half is a function of its own, so that other steps can come in between.
-/

namespace ColumnStore

/-- To read what a conversation gives is no further conversation. -/
theorem Http.run_bind_reading {α β : Type} (conversation : ExceptT Error Http.Wire α)
    (read : α → Except Error β)
    : (do
        let a ← conversation
        read a : ExceptT Error Http.Wire β).run
      = (· >>= read) <$> conversation.run := by
  funext server log
  have reads (result : Except Error α) (after : List Exchange)
      : (ExceptT.bindCont (fun a => (liftM (read a) : ExceptT Error Wire β)) result) server after
        = (result >>= read, after) := by
    cases result with
    | error e => rfl
    | ok a => cases h : read a <;> simp [ExceptT.bindCont, h, bind, Except.bind] <;> rfl
  exact reads (conversation.run server log).1 (conversation.run server log).2

namespace Endpoint

/-- The request that goes out for a statement, or why none can. -/
def outgoing (e : Endpoint) (sql database : String) (format : Format)
    : Except Error Http.Request := do
  let request ← e.statementRequest sql database format
  if request.url.withoutIdentity.canBeRequested then return request
  else throw (.transfer (.badTarget request.urlText))

theorem outgoing_eq_ok {e : Endpoint} {sql database : String} {format : Format}
    {request : Http.Request} (sends : e.outgoing sql database format = .ok request)
    : request = {
        method := .post
        url := e.base.withQuery (Url.formPairs (e.parameters database format))
        credentials := some ⟨e.username, e.password⟩
        body := sql } := by
  obtain ⟨formed, forms, named⟩ := bind_eq_ok.1 sends
  have same : formed = request := by
    split at named
    · exact pure_eq_ok.1 named
    · cases named
  subst same
  unfold statementRequest at forms
  split at forms
  · exact (Except.ok.inj forms).symm
  · cases forms

/-- Sending is both halves with one exchange between them, and no exchange where no request can go
out.
-/
theorem run_send (e : Endpoint) (sql database : String) (format : Format)
    : (e.send sql database format).run
      = match e.outgoing sql database format with
        | .error refusal => pure (.error refusal)
        | .ok request =>
          (fun reply => judged (reply.received request)) <$> Http.exchange request := by
  unfold send outgoing
  cases e.statementRequest sql database format with
  | error refusal => rfl
  | ok request =>
    have formed : (do
        let request ← (.ok request : Except Error Http.Request)
        let answer ← Http.send request
        judged answer : ExceptT Error Http.Wire Http.Response).run
        = (· >>= judged) <$> (liftM (Http.send request) : ExceptT Error Http.Wire _).run := by
      rw [← Http.run_bind_reading]
      rfl
    rw [formed, Http.send]
    by_cases named : request.url.withoutIdentity.canBeRequested
    · simp only [bind, Except.bind, if_pos named]
      rfl
    · simp only [bind, Except.bind, if_neg named]
      rfl

/-- A ping is one exchange, or a failure where no request can name the server. -/
theorem run_ping (e : Endpoint)
    : e.ping.run
      = if e.pingRequest.url.withoutIdentity.canBeRequested then
          (fun reply => pinged e.pingRequest (reply.received e.pingRequest))
            <$> Http.exchange e.pingRequest
        else pure (pinged e.pingRequest (.error (.badTarget e.pingRequest.urlText))) := by
  have sent : e.ping.run
      = (· >>= pinged e.pingRequest)
          <$> (liftM (Http.send e.pingRequest) : ExceptT Error Http.Wire _).run := by
    rw [← Http.run_bind_reading]
    rfl
  rw [sent, Http.send]
  split <;> rfl

end Endpoint

namespace BatchClient

/-- The result that the answer to a request gives. -/
def outcome (request : Http.Request) (reply : Http.Reply) : Outcome := do
  let response ← Endpoint.judged (reply.received request)
  rows response

/-- A statement runs with one exchange, or with none where no request can go out. -/
theorem run_eq (e : Endpoint) (sql database : String)
    : (run e sql database).run
      = match e.outgoing sql database .whole with
        | .error refusal => pure (.error refusal)
        | .ok request => outcome request <$> Http.exchange request := by
  have both : (run e sql database).run = (· >>= rows) <$> (e.send sql database .whole).run :=
    Http.run_bind_reading _ _
  rw [both, Endpoint.run_send]
  cases e.outgoing sql database .whole <;> rfl

/-- A drained statement is executed with the same exchange, and its result is kept. -/
theorem execute_eq (c : BatchClient) (p : Pending)
    : c.execute p
      = match c.endpoint.outgoing p.sql p.database .whole with
        | .error refusal => pure (c.answer p.ticket (.error refusal))
        | .ok request =>
          (fun reply => c.answer p.ticket (outcome request reply)) <$> Http.exchange request := by
  rw [execute, run_eq]
  cases c.endpoint.outgoing p.sql p.database .whole <;> rfl

end BatchClient

namespace StreamingClient

def result (answer : Except Error Http.Response) : Outcome :=
  (answer.map fun response => Row.decode (chunks response)) >>= Row.collect

/-- The rows of a streaming client take one exchange, or none where no request can go out. -/
theorem query_eq (c : StreamingClient) (sql : String)
    : (c.query sql).run
      = match c.endpoint.outgoing sql c.database .lines with
        | .error refusal => pure (.error refusal)
        | .ok request =>
          (fun reply => result (Endpoint.judged (reply.received request)))
            <$> Http.exchange request := by
  have rows : (c.query sql).run = (· >>= Row.collect) <$> (c.stream sql).run := by
    rw [← Http.run_bind_reading]
    rfl
  have items : (c.stream sql).run
      = (·.map fun response => Row.decode (chunks response))
          <$> (c.endpoint.send sql c.database .lines).run := by
    funext server log
    have reads (result : Except Error Http.Response) (after : List Http.Exchange)
        : (ExceptT.bindCont (fun response => (return Row.decode (chunks response)
            : ExceptT Error Http.Wire _)) result) server after
          = (result.map fun response => Row.decode (chunks response), after) := by
      cases result <;> rfl
    exact reads _ _
  rw [rows, items, Endpoint.run_send]
  cases c.endpoint.outgoing sql c.database .lines <;> rfl

end StreamingClient

end ColumnStore
