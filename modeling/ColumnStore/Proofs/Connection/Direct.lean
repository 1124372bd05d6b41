import ColumnStore.Proofs.Concurrent.Identity
import ColumnStore.Proofs.Connection.Running

/-! A caller that has a client to itself need not know of the registry or of the queue. Every
statement that it runs is a conversation with the server, and the queue is empty again after it.
-/

namespace ColumnStore

/-- A client with nothing queued. Results may wait in it, each of a statement queued before. -/
structure BatchClient.IsIdle (c : BatchClient) : Prop where
  pending : c.pending = []
  answers : ∀ a ∈ c.answers, a.1 < c.issued

def Client.IsIdle : Client → Prop
  | streaming _ => True
  | batch c => c.IsIdle

theorem Client.isIdle_connect {config : Config} {client : Client}
    (connected : connect config = .ok client)
    : client.IsIdle := by
  obtain ⟨base, -, made⟩ := bind_eq_ok.1 connected
  cases mode : config.mode <;> rw [mode] at made <;> obtain rfl := pure_eq_ok.1 made
  · trivial
  · exact ⟨rfl, nofun⟩

/-- A session in which the client of some settings, if they have one, has nothing queued. -/
structure Session.IsIdle (config : Config) (s : Session) : Prop where
  sound : s.registry.Sound
  idle : ∀ found, s.registry.find? config.identity = some found → found.2.IsIdle

/-- Nothing is queued at the start. -/
theorem Session.IsIdle.new (config : Config)
    : Session.IsIdle config {} where
  sound := fun _ _ member => (List.not_mem_nil member).elim
  idle := fun _ found => nomatch found

-----------------------------------------------------------------------------------------
-- Looking up a client
-----------------------------------------------------------------------------------------

namespace Registry

variable {r later : Registry} {config : Config}

/-- What was looked up is found from then on. -/
theorem find?_of_lookup {found : Nat × Client} (looked : r.lookup config = .ok (found, later))
    : later.find? config.identity = some found := by
  rcases lookup_eq_ok.1 looked with ⟨finds, rfl⟩ | ⟨-, client, -, rfl, rfl⟩
  · exact finds
  · simp [find?]

/-- Where nothing is queued for some settings, their client has nothing queued. -/
theorem isIdle_of_lookup {s : Session} {found : Nat × Client} (h : s.IsIdle config)
    (looked : s.registry.lookup config = .ok (found, later))
    : found.2.IsIdle := by
  rcases lookup_eq_ok.1 looked with ⟨finds, rfl⟩ | ⟨-, client, connected, rfl, -⟩
  · exact h.idle _ finds
  · exact Client.isIdle_connect connected

/-- A lookup fails only where the settings name no server. -/
theorem endpoint_of_lookup {e : Error} (refused : r.lookup config = .error e)
    : config.endpoint = .error e := by
  have unconnected := (lookup_eq_error.1 refused).2
  cases based : config.baseUrl with
  | error fault =>
    rw [Client.connect, based] at unconnected
    rw [Config.endpoint, based]
    cases unconnected
    rfl
  | ok base =>
    rw [Client.connect, based] at unconnected
    cases mode : config.mode <;> rw [mode] at unconnected <;> cases unconnected

/-- A client that is changed is found in its place. -/
theorem find?_put {identity : Identity} {number : Nat} {client changed : Client}
    (finds : r.find? identity = some (number, client))
    : (r.put number changed).find? identity = some (number, changed) := by
  obtain ⟨held, holds, rest⟩ := Option.bind_eq_some_iff.1 finds
  obtain ⟨known, placed, made⟩ := Option.bind_eq_some_iff.1 rest
  obtain ⟨rfl, rfl⟩ := Prod.mk.inj (Option.some.inj made)
  obtain ⟨early, -⟩ := List.getElem?_eq_some_iff.1 placed
  have here : (r.put held changed).clients[held]? = some changed := List.getElem?_set_self early
  refine Option.bind_eq_some_iff.2 ⟨held, holds, ?_⟩
  exact Option.bind_eq_some_iff.2 ⟨changed, here, rfl⟩

end Registry

-----------------------------------------------------------------------------------------
-- Runs that act as conversations
-----------------------------------------------------------------------------------------

namespace Connection

/-- A run that acts as a conversation for a sole caller: it asks the same, gives the same, and leaves
nothing queued.
-/
def Acts (c : Connection) {α : Type} (run : Run α) (conversation : ExceptT Error Http.Wire α)
    : Prop :=
  ∀ (session : Session) (server : Http.Server) (log : List Http.Exchange),
    session.IsIdle c.config →
      ∃ later : Session, later.IsIdle c.config ∧ later.ids = session.ids
        ∧ run.run session server log
          = (((conversation.run server log).1, later), (conversation.run server log).2)

variable {c : Connection} {α β : Type}

theorem acts_pure (a : α) : c.Acts (pure a) (pure a) :=
  fun session _ _ idle => ⟨session, idle, rfl, rfl⟩

/-- To read what is at hand asks nothing. -/
theorem acts_reading (result : Except Error α)
    : c.Acts (liftM result) (liftM result) := by
  intro session server log idle
  refine ⟨session, idle, rfl, ?_⟩
  cases result <;> rfl

/-- A conversation goes on from where its first part ends, unless that fails. -/
theorem run_wire_bind (first : ExceptT Error Http.Wire α) (next : α → ExceptT Error Http.Wire β)
    (server : Http.Server) (log : List Http.Exchange)
    : (first >>= next).run server log
      = match first.run server log with
        | (.error e, log) => (.error e, log)
        | (.ok a, log) => (next a).run server log := by
  change (ExceptT.bindCont next (first.run server log).1) server (first.run server log).2 = _
  obtain ⟨result, after⟩ := first.run server log
  cases result <;> rfl

/-- Runs that act as conversations do so one after the other. -/
theorem Acts.bind {first : Run α} {next : α → Run β} {opening : ExceptT Error Http.Wire α}
    {rest : α → ExceptT Error Http.Wire β} (one : c.Acts first opening)
    (others : ∀ a, c.Acts (next a) (rest a))
    : c.Acts (first >>= next) (opening >>= rest) := by
  intro session server log idle
  obtain ⟨middle, calm, ids, run⟩ := one session server log idle
  rw [run_bind, run, run_wire_bind]
  obtain ⟨result, after⟩ := opening.run server log
  cases result with
  | error e => exact ⟨middle, calm, ids, rfl⟩
  | ok a =>
    obtain ⟨later, still, same, run⟩ := others a middle server after calm
    exact ⟨later, still, same.trans ids, run⟩

-----------------------------------------------------------------------------------------
-- Statements
-----------------------------------------------------------------------------------------

/-- The conversation of a statement: a batch server is asked whether it is there first. -/
def direct (c : Connection) (sql : String) : ExceptT Error Http.Wire (List Row) := do
  let sql := Text.trimmed sql
  if sql.isEmpty then return []
  let endpoint ← c.config.endpoint
  match c.config.mode with
  | .streaming => StreamingClient.query ⟨endpoint, c.config.database⟩ sql
  | .batch => do
    endpoint.ping
    BatchClient.run endpoint sql c.config.database

/-- The conversation of a text that is not blank. -/
theorem direct_of_filled (c : Connection) {sql : String}
    (filled : (Text.trimmed sql).isEmpty = false)
    : c.direct sql = (do
        let endpoint ← c.config.endpoint
        match c.config.mode with
        | .streaming => StreamingClient.query ⟨endpoint, c.config.database⟩ (Text.trimmed sql)
        | .batch => do
          endpoint.ping
          BatchClient.run endpoint (Text.trimmed sql) c.config.database) := by
  unfold direct
  exact if_neg (by simp [filled])

/-- A statement that is queued alone is sent alone, and its handle gets its result. -/
theorem run_runQueued_of_idle (number : Nat) {client : BatchClient} (idle : client.IsIdle)
    (sql : String) (session : Session) (server : Http.Server) (log : List Http.Exchange)
    : ∃ after : BatchClient, after.IsIdle ∧ after.endpoint = client.endpoint
      ∧ after.database = client.database
      ∧ (runQueued number client sql).run session server log
        = ((((client.write sql).run server log).1,
              { session with registry := session.registry.put number (.batch after) }),
            ((client.write sql).run server log).2) := by
  let outcome := ((client.write sql).run server log).1
  let drained : BatchClient := { client with pending := [], issued := client.issued + 1 }
  let answered := drained.answer client.issued outcome
  have executed : (client.submit sql).2.executePending server log
      = ((1, answered), ((client.write sql).run server log).2) := by
    have queued : (client.submit sql).2.pending = [⟨client.issued, sql, client.database⟩] := by
      simp [BatchClient.submit, idle.pending]
    unfold BatchClient.executePending BatchClient.drain
    rw [queued]
    rfl
  have unanswered : client.answers.lookup client.issued = none := by
    refine List.lookup_eq_none_iff.2 ?_
    intro a member
    have earlier := idle.answers a member
    simp only [bne_iff_ne, ne_eq]
    omega
  have result : answered.result (client.submit sql).1 = outcome := by
    simp [BatchClient.result, answered, drained, BatchClient.answer, BatchClient.submit,
      List.lookup_append, unanswered]
  refine ⟨answered.forget client.issued, ⟨rfl, ?_⟩, rfl, rfl, ?_⟩
  · intro a member
    obtain ⟨known, other⟩ := List.mem_filter.1 member
    rcases List.mem_append.1 known with before | now
    · exact Nat.lt_succ_of_lt (idle.answers a before)
    · obtain rfl := List.mem_singleton.1 now
      simp at other
  · rw [run_runQueued, executed]
    rw [result, Registry.put_put]
    rfl

/-- Over the client that serves its settings a statement acts as its conversation. -/
theorem run_runBatch_of_idle {number : Nat} {client : BatchClient} (session : Session)
    (sound : session.registry.Sound)
    (finds : session.registry.find? c.config.identity = some (number, .batch client))
    (serves : (Client.batch client).Serves c.config) (idle : client.IsIdle) (sql : String)
    (server : Http.Server) (log : List Http.Exchange)
    : ∃ later : Session, later.IsIdle c.config ∧ later.ids = session.ids
      ∧ (c.runBatch number client sql).run session server log
        = ((((client.endpoint.ping >>= fun _ => client.write sql).run server log).1, later),
            ((client.endpoint.ping >>= fun _ => client.write sql).run server log).2) := by
  obtain ⟨held, placed⟩ := Registry.find?_eq_some finds
  have selected : client.useDatabase c.config.database = client := by
    rw [BatchClient.useDatabase, ← serves.database]
    rfl
  have calm : session.IsIdle c.config := by
    refine ⟨sound, fun found again => ?_⟩
    obtain rfl := Option.some.inj (finds.symm.trans again)
    exact idle
  rw [runBatch, selected, keep_bind, Registry.put_self placed, run_overWire_bind, run_wire_bind]
  obtain ⟨pinged, after⟩ := client.endpoint.ping.run server log
  cases pinged with
  | error e => exact ⟨session, calm, rfl, rfl⟩
  | ok alive =>
    cases queues : c.config.async with
    | false => exact ⟨session, calm, rfl, rfl⟩
    | true =>
      obtain ⟨changed, still, endpoint, database, run⟩ :=
        run_runQueued_of_idle number idle sql session server after
      have kept (config : Config) (serves : (Client.batch client).Serves config)
          : (Client.batch changed).Serves config := by
        refine ⟨serves.mode, ?_, database.trans serves.database, fun p queued => ?_⟩
        · exact serves.endpoint.trans (congrArg _ endpoint.symm)
        · simp [Client.pending, still.pending] at queued
      refine ⟨{ session with registry := session.registry.put number (.batch changed) },
        ⟨?_, ?_⟩, rfl, run⟩
      · intro identity other member config same
        exact sound.mono (Registry.within_put placed kept) member same
      · intro found again
        obtain rfl := Option.some.inj ((Registry.find?_put finds).symm.trans again)
        exact still

/-- A statement of a sole caller acts as its conversation, queued or not. -/
theorem acts_runSql (sql : String)
    : c.Acts (c.runSql sql) (c.direct sql) := by
  intro session server log idle
  cases filled : (Text.trimmed sql).isEmpty with
  | true =>
    rw [runSql_of_blank c filled]
    refine ⟨session, idle, rfl, ?_⟩
    simp only [direct, filled]
    rfl
  | false =>
    rw [runSql_of_filled c filled, run_bind, run_client, direct_of_filled c filled]
    cases looked : session.registry.lookup c.config with
    | error e =>
      rw [Registry.endpoint_of_lookup looked]
      exact ⟨session, idle, rfl, rfl⟩
    | ok both =>
      obtain ⟨⟨number, client⟩, later⟩ := both
      obtain ⟨placed, serves, sound, -⟩ := Registry.lookup_serves idle.sound looked
      have finds := Registry.find?_of_lookup looked
      have calm := Registry.isIdle_of_lookup idle looked
      rw [serves.endpoint, ← serves.mode, ← serves.database]
      cases client with
      | streaming client =>
        refine ⟨{ session with registry := later }, ⟨sound, ?_⟩, rfl, rfl⟩
        intro found again
        obtain rfl := Option.some.inj (finds.symm.trans again)
        trivial
      | batch client =>
        exact run_runBatch_of_idle { session with registry := later } sound finds serves calm
          (Text.trimmed sql) server log

end Connection

end ColumnStore
