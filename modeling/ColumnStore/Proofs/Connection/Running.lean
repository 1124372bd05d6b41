import ColumnStore.Connection.Basic

/-! A run is taken apart at its binds: what it gives, the session after it and the exchanges so far.
A run that fails has the session and the exchanges of its failure.
-/

namespace ColumnStore

namespace Connection

variable {α β : Type} (session : Session) (server : Http.Server) (log : List Http.Exchange)

/-- A run goes on from where its first part ends, unless that fails. -/
theorem run_bind (first : Run α) (next : α → Run β)
    : (first >>= next).run session server log
      = match first.run session server log with
        | ((.error e, session), log) => ((.error e, session), log)
        | ((.ok a, session), log) => (next a).run session server log := by
  change (ExceptT.bindCont next (first.run session server log).1.1)
    (first.run session server log).1.2 server (first.run session server log).2 = _
  obtain ⟨⟨result, session⟩, log⟩ := first.run session server log
  cases result <;> rfl

/-- What is at hand is given as it is. -/
theorem run_reading (result : Except Error α)
    : (liftM result : Run α).run session server log = ((result, session), log) := by
  cases result <;> rfl

theorem run_overWire (conversation : ExceptT Error Http.Wire α)
    : (overWire conversation).run session server log
      = (((conversation.run server log).1, session), (conversation.run server log).2) :=
  rfl

/-- A run goes on with what a conversation gives, and ends with its failure. -/
theorem run_overWire_bind (conversation : ExceptT Error Http.Wire α) (next : α → Run β)
    : (overWire conversation >>= next).run session server log
      = match conversation.run server log with
        | (.error e, log) => ((.error e, session), log)
        | (.ok a, log) => (next a).run session server log := by
  rw [run_bind, run_overWire]
  obtain ⟨result, after⟩ := conversation.run server log
  cases result <;> rfl

theorem run_client (c : Connection)
    : c.client.run session server log
      = match session.registry.lookup c.config with
        | .error e => ((.error e, session), log)
        | .ok (found, registry) => ((.ok found, { session with registry }), log) := by
  rw [client, run_bind]
  change (liftM (session.registry.lookup c.config) >>= _ : Run _).run session server log = _
  rw [run_bind]
  cases session.registry.lookup c.config <;> rfl

theorem keep_bind (number : Nat) (client : BatchClient) (next : Unit → Run β)
    : (keep number client >>= next).run session server log
      = (next ()).run { session with registry := session.registry.put number (.batch client) }
          server log :=
  rfl

/-- A queued statement is submitted, the queue is executed, and the result is taken. -/
theorem run_runQueued (number : Nat) (client : BatchClient) (sql : String)
    : (runQueued number client sql).run session server log
      = (((((client.submit sql).2.executePending server log).1.2.result (client.submit sql).1),
          { session with
            registry := (session.registry.put number (.batch (client.submit sql).2)).put number
              (.batch (((client.submit sql).2.executePending server log).1.2.forget
                (client.submit sql).1.ticket)) }),
          ((client.submit sql).2.executePending server log).2) :=
  run_reading _ server _ _

/-- A text of blanks is not sent. -/
theorem runSql_of_blank (c : Connection) {text : String} (blank : (Text.trimmed text).isEmpty = true)
    : c.runSql text = pure [] := by
  unfold runSql
  exact if_pos blank

/-- Any other text is sent over the client that is looked up. -/
theorem runSql_of_filled (c : Connection) {text : String}
    (filled : (Text.trimmed text).isEmpty = false)
    : c.runSql text
      = c.client >>= fun
        | (_, .streaming client) => overWire (client.query (Text.trimmed text))
        | (number, .batch client) => c.runBatch number client (Text.trimmed text) := by
  unfold runSql
  exact if_neg (by simp [filled])

end Connection

end ColumnStore
