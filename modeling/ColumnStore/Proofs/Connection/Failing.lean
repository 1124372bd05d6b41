import ColumnStore.Proofs.Connection.Answered

/-! An exchange fails for one of a few causes, each with an error of its own. What a statement leaves in
the log is known from that: in batch mode a ping first, then the statement if the ping was well
answered, and the rows or the failure of the last of them.
-/

namespace ColumnStore

/-- The rows that a mode reads from an answer. -/
def Mode.read : Mode → Http.Response → Except Error (List Row)
  | streaming, r => Row.collect (Row.decode (StreamingClient.chunks r))
  | batch, r => BatchClient.rows r

/-- The text of an answer that is refused, as the failure shows it: a body that breaks off has none. -/
def Http.Response.shown (r : Http.Response) : String :=
  match r.text with
  | .ok text => String.ofList (Text.trim text)
  | .error _ => ""

theorem Http.Reply.received_eq_ok {request : Http.Request} {reply : Http.Reply} {r : Http.Response}
    : reply.received request = .ok r ↔ reply = .response r := by
  cases reply <;> simp [received]

namespace Connection

variable {c : Connection} {Counts : String → Prop}

-----------------------------------------------------------------------------------------
-- How an exchange fails
-----------------------------------------------------------------------------------------

/-- What an exchange fails with. A ping fails without an answer, with a status that is no success, with a
body that breaks off and with any text but `Ok.`. A statement fails without an answer, when it is
refused by the status or the mark of an exception, and when its body gives no rows; one that
counts also fails when its rows give no unsigned number.
-/
inductive Fails (c : Connection) (Counts : String → Prop) : Http.Exchange → Error → Prop
  | pingUnanswered {request : Http.Request} {reply : Http.Reply} {fault : TransferFault}
      (ping : request.method = .get) (h : reply.received request = .error fault)
    : Fails c Counts ⟨request, reply⟩ (.ping request.url.text fault.text)
  | pingStatus {request : Http.Request} {r : Http.Response} (ping : request.method = .get)
      (h : r.isSuccess = false)
    : Fails c Counts ⟨request, .response r⟩
        (.ping request.url.text ("status " ++ Http.statusText r.status))
  | pingCut {request : Http.Request} {r : Http.Response} {fault : TransferFault}
      (ping : request.method = .get) (success : r.isSuccess) (h : r.text = .error fault)
    : Fails c Counts ⟨request, .response r⟩ (.ping request.url.text fault.text)
  | pingText {request : Http.Request} {r : Http.Response} {text : List Char}
      (ping : request.method = .get) (success : r.isSuccess) (body : r.text = .ok text)
      (h : String.ofList (Text.trim text) ≠ "Ok.")
    : Fails c Counts ⟨request, .response r⟩
        (.ping request.url.text
          ("unexpected answer " ++ Text.visible (String.ofList (Text.trim text))))
  | unanswered {request : Http.Request} {reply : Http.Reply} {fault : TransferFault}
      (statement : request.method = .post) (h : reply.received request = .error fault)
    : Fails c Counts ⟨request, reply⟩ (.transfer fault)
  | refused {request : Http.Request} {r : Http.Response} (statement : request.method = .post)
      (h : r.isSuccess = false ∨ r.isException)
    : Fails c Counts ⟨request, .response r⟩ (.server r.status r.shown)
  | unread {request : Http.Request} {r : Http.Response} {e : Error}
      (statement : request.method = .post) (success : r.isSuccess) (plain : r.isException = false)
      (h : c.config.mode.read r = .error e)
    : Fails c Counts ⟨request, .response r⟩ e
  | uncounted {request : Http.Request} {r : Http.Response} {rows : List Row} {e : Error}
      (statement : request.method = .post) (counts : Counts request.body) (success : r.isSuccess)
      (plain : r.isException = false) (body : c.config.mode.read r = .ok rows)
      (h : countOf rows = .error e)
    : Fails c Counts ⟨request, .response r⟩ e

/-- An answer to a ping as a live server gives it. -/
def IsPong (r : Http.Response) : Prop :=
  r.isSuccess ∧ ∃ text, r.text = .ok text ∧ String.ofList (Text.trim text) = "Ok."

theorem pingFault?_eq_none_iff {r : Http.Response}
    : Endpoint.pingFault? r = none ↔ IsPong r := by
  unfold Endpoint.pingFault? IsPong
  cases success : r.isSuccess with
  | false => simp
  | true =>
    cases body : r.text with
    | error fault => simp
    | ok text => simp

/-- A ping fails where it does not show a live server. -/
theorem fails_ping_iff {request : Http.Request} (ping : request.method = .get) {reply : Http.Reply}
    {e : Error}
    : c.Fails Counts ⟨request, reply⟩ e
      ↔ Endpoint.pinged request (reply.received request) = .error e := by
  constructor
  · intro fails
    cases fails with
    | pingUnanswered _ h => simp [Endpoint.pinged, h]
    | pingStatus _ h => simp [Endpoint.pinged, Http.Reply.received, Endpoint.pingFault?, h]
    | pingCut _ success h =>
      simp [Endpoint.pinged, Http.Reply.received, Endpoint.pingFault?, success, h]
    | pingText _ success body h =>
      simp [Endpoint.pinged, Http.Reply.received, Endpoint.pingFault?, success, body, h]
    | unanswered statement | refused statement | unread statement | uncounted statement =>
      cases ping.symm.trans statement
  · intro pinged
    cases received : reply.received request with
    | error fault =>
      rw [received] at pinged
      obtain rfl : Error.ping request.url.text fault.text = e := Except.error.inj pinged
      exact .pingUnanswered ping received
    | ok r =>
      obtain rfl := Http.Reply.received_eq_ok.1 received
      rw [received, Endpoint.pinged] at pinged
      cases fault : Endpoint.pingFault? r with
      | none => simp [fault] at pinged
      | some reason =>
        obtain rfl : Error.ping request.url.text reason = e := by simpa [fault] using pinged
        unfold Endpoint.pingFault? at fault
        cases success : r.isSuccess with
        | false =>
          obtain rfl : "status " ++ Http.statusText r.status = reason := by
            simpa [success] using fault
          exact .pingStatus ping success
        | true =>
          cases body : r.text with
          | error cut =>
            obtain rfl : cut.text = reason := by simpa [success, body] using fault
            exact .pingCut ping success body
          | ok text =>
            have other : String.ofList (Text.trim text) ≠ "Ok."
                ∧ "unexpected answer " ++ Text.visible (String.ofList (Text.trim text)) = reason := by
              simpa [success, body] using fault
            obtain ⟨other, rfl⟩ := other
            exact .pingText ping success body other

/-- What the answer to a statement gives: the rows that its body is read as, once it is accepted. -/
def answered (c : Connection) (request : Http.Request) (reply : Http.Reply)
    : Except Error (List Row) := do
  let response ← Endpoint.judged (reply.received request)
  c.config.mode.read response

theorem answered_of_accepted {r : Http.Response} (success : r.isSuccess)
    (plain : r.isException = false) (request : Http.Request)
    : c.answered request (.response r) = c.config.mode.read r := by
  rw [answered, Http.Reply.received, Endpoint.judged_of_accepted success plain]
  rfl

theorem answered_of_refused {r : Http.Response} (h : r.isSuccess = false ∨ r.isException)
    (request : Http.Request)
    : c.answered request (.response r) = .error (.server r.status r.shown) := by
  have refused : Endpoint.judged (.ok r) = .error (.server r.status r.shown) := by
    refine if_neg fun ⟨success, plain⟩ => ?_
    rcases h with status | exception
    · simp [status] at success
    · simp [exception] at plain
  rw [answered, Http.Reply.received, refused]
  rfl

theorem answered_eq_ok {request : Http.Request} {reply : Http.Reply} {rows : List Row}
    (h : c.answered request reply = .ok rows)
    : ∃ r, reply = .response r ∧ c.config.mode.read r = .ok rows := by
  cases received : reply.received request with
  | error fault =>
    rw [answered, received] at h
    cases h
  | ok r =>
    obtain rfl := Http.Reply.received_eq_ok.1 received
    by_cases refused : r.isSuccess = false ∨ r.isException
    · rw [answered_of_refused refused] at h
      cases h
    · obtain ⟨success, plain⟩ : r.isSuccess ∧ r.isException = false := by simpa using refused
      exact ⟨r, rfl, (answered_of_accepted success plain request).symm.trans h⟩

/-- A statement fails where its answer gives nothing to a reader of rows that refuses only what is no
count.
-/
theorem fails_statement_iff {α : Type} {request : Http.Request} (statement : request.method = .post)
    {reply : Http.Reply} {check : List Row → Except Error α} {e : Error}
    (checks : ∀ rows e, check rows = .error e ↔ Counts request.body ∧ countOf rows = .error e)
    : c.Fails Counts ⟨request, reply⟩ e ↔ c.answered request reply >>= check = .error e := by
  constructor
  · intro fails
    cases fails with
    | pingUnanswered ping | pingStatus ping | pingCut ping | pingText ping =>
      cases ping.symm.trans statement
    | unanswered _ h => simp [answered, h, Endpoint.judged, bind, Except.bind]
    | refused _ h =>
      rw [answered_of_refused h]
      rfl
    | unread _ success plain h =>
      rw [answered_of_accepted success plain, h]
      rfl
    | uncounted _ counts success plain body h =>
      rw [answered_of_accepted success plain, body]
      exact (checks _ e).2 ⟨counts, h⟩
  · intro failed
    cases received : reply.received request with
    | error fault =>
      rw [answered, received] at failed
      obtain rfl : Error.transfer fault = e := Except.error.inj failed
      exact .unanswered statement received
    | ok r =>
      obtain rfl := Http.Reply.received_eq_ok.1 received
      by_cases refused : r.isSuccess = false ∨ r.isException
      · rw [answered_of_refused refused] at failed
        obtain rfl : Error.server r.status r.shown = e := Except.error.inj failed
        exact .refused statement refused
      · obtain ⟨success, plain⟩ : r.isSuccess ∧ r.isException = false := by simpa using refused
        rw [answered_of_accepted success plain] at failed
        cases body : c.config.mode.read r with
        | error fault =>
          rw [body] at failed
          obtain rfl : fault = e := Except.error.inj failed
          exact .unread statement success plain body
        | ok rows =>
          rw [body] at failed
          obtain ⟨counts, uncounted⟩ := (checks rows e).1 failed
          exact .uncounted statement counts success plain body uncounted

end Connection

end ColumnStore
