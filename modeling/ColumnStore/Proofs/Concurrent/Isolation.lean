import ColumnStore.Proofs.Concurrent.World
import ColumnStore.Proofs.Connection.Answered

/-! Every request for a statement is the one that the settings of its connection ask for, whoever
sends it and whatever runs beside it. What carries this is that a client keeps the server, the asker
and the database of one identity, and lends them to no other.
-/

namespace ColumnStore

/-- The request for a statement of a connection, as the settings of that connection have it. -/
def Config.Asks (c : Config) (sql : String) (request : Http.Request) : Prop :=
  ∃ base, c.baseUrl = .ok base ∧ request = {
    method := .post
    url := base.withQuery (Url.formPairs (
      [("database", c.database),
        ("default_format", match c.mode with
          | .streaming => "JSONEachRow"
          | .batch => "JSON")]
      ++ if c.readOnly then [("readonly", "1")] else []))
    credentials := some ⟨c.username, c.password⟩
    body := sql }

/-- A client asks what the settings that it serves ask. -/
theorem Client.Serves.asks {config : Config} {client : Client} (serves : client.Serves config)
    {sql database : String} {format : Format} {request : Http.Request}
    (sends : client.endpoint.outgoing sql database format = .ok request)
    (selected : database = config.database) (mode : format = client.mode.format)
    : config.Asks sql request := by
  obtain ⟨base, based, made⟩ := bind_eq_ok.1 serves.endpoint
  have endpoint := (pure_eq_ok.1 made).symm
  refine ⟨base, based, ?_⟩
  rw [Endpoint.outgoing_eq_ok sends, endpoint, selected, mode, serves.mode]
  cases config.mode <;> rfl

namespace Concurrent

-----------------------------------------------------------------------------------------
-- The invariant
-----------------------------------------------------------------------------------------

/-- The statements that were queued, each by its client and its ticket there. -/
def submissions (history : List Event) : List (Nat × Nat) :=
  history.filterMap fun
    | .submitted _ number handle => some (number, handle.ticket)
    | _ => none

/-- A queued statement has a connection that queued it and that its client serves. -/
def Issued (r : Registry) (history : List Event) (number : Nat) (p : Pending) : Prop :=
  ∃ connection, .submitted connection number ⟨p.ticket, p.sql⟩ ∈ history
    ∧ r.Serves number connection.config

/-- Clients that serve all who use them, with a history without a wrong request. -/
structure Safe (r : Registry) (history : List Event) : Prop where
  sound : r.Sound
  queued : ∀ (number : Nat) (c : BatchClient), r.clients[number]? = some (.batch c) →
    ∀ p ∈ c.pending, Issued r history number p
  numbered : ∀ connection number handle, .submitted connection number handle ∈ history →
    ∃ c, r.clients[number]? = some (.batch c) ∧ handle.ticket < c.issued
  once : (submissions history).Nodup
  sent : ∀ connection sql request, .sent connection sql request ∈ history →
    connection.config.Asks sql request
  forwarded : ∀ number ticket request, .forwarded number ticket request ∈ history →
    ∃ connection sql, .submitted connection number ⟨ticket, sql⟩ ∈ history
      ∧ connection.config.Asks sql request

/-- What a run holds besides its client, at each point where it may be. -/
def Phase.Holds (r : Registry) (history : List Event) (task : Task) : Phase → Prop
  | .writing database => database = task.connection.config.database
  | .executing _ unsent _ => ∀ p ∈ unsent,
    p.database = task.connection.config.database ∧ Issued r history task.number p
  | _ => True

/-- A run whose client serves its connection. -/
structure Task.Sound (r : Registry) (history : List Event) (task : Task) : Prop where
  serves : r.Serves task.number task.connection.config
  holds : task.phase.Holds r history task

variable {r later : Registry} {history more : List Event} {number : Nat}

theorem Issued.mono {p : Pending} (issued : Issued r history number p) (within : r.Within later)
    (longer : history ⊆ more)
    : Issued later more number p := by
  obtain ⟨connection, submitted, serves⟩ := issued
  exact ⟨connection, longer submitted, serves.mono within⟩

/-- What others do leaves a run sound. -/
theorem Task.Sound.mono {task : Task} (sound : task.Sound r history) (within : r.Within later)
    (longer : history ⊆ more)
    : task.Sound later more where
  serves := sound.serves.mono within
  holds := by
    have holds := sound.holds
    cases phase : task.phase <;> rw [phase] at holds
    case executing handle unsent sent =>
      exact fun p h => ⟨(holds p h).1, (holds p h).2.mono within longer⟩
    case writing database => exact holds
    all_goals trivial

theorem Safe.new : Safe {} [] where
  sound _ _ held := by cases held
  queued _ _ placed := by simp at placed
  numbered _ _ _ h := by cases h
  once := .nil
  sent _ _ _ h := by cases h
  forwarded _ _ _ h := by cases h

-----------------------------------------------------------------------------------------
-- What the pieces of a run do to clients and history
-----------------------------------------------------------------------------------------

/-- A batch client after one was changed is that one or an old one. -/
theorem batch_of_put {other : Nat} {c d : BatchClient}
    (placed : (r.put number (.batch d)).clients[other]? = some (.batch c))
    : (other = number ∧ c = d) ∨ r.clients[other]? = some (.batch c) := by
  by_cases same : number = other
  · subst same
    obtain ⟨early, -⟩ := List.getElem?_eq_some_iff.1 placed
    have early : number < r.clients.length := by simpa [Registry.put] using early
    have now : some (Client.batch d) = some (.batch c) :=
      (List.getElem?_set_self early).symm.trans placed
    obtain rfl := Client.batch.inj (Option.some.inj now)
    exact .inl ⟨rfl, rfl⟩
  · exact .inr ((List.getElem?_set_ne same).symm.trans placed)

theorem put_batch {c d : BatchClient} (found : r.clients[number]? = some (.batch c))
    : (r.put number (.batch d)).clients[number]? = some (.batch d) :=
  List.getElem?_set_self (List.getElem?_eq_some_iff.1 found).1

/-- A client that follows one in its place leaves all safe. -/
theorem Safe.follow (safe : Safe r history) {c d : BatchClient}
    (found : r.clients[number]? = some (.batch c)) (follows : Client.Follows c d)
    : Safe (r.put number (.batch d)) history ∧ r.Within (r.put number (.batch d)) := by
  have within := Registry.within_put found fun _ => follows.serves
  refine ⟨⟨?_, ?_, ?_, safe.once, safe.sent, safe.forwarded⟩, within⟩
  · exact fun _ _ held _ same => safe.sound.mono within held same
  · intro other e placed p h
    rcases batch_of_put placed with ⟨rfl, rfl⟩ | before
    · exact (safe.queued other c found p (follows.pending p h)).mono within (List.Subset.refl _)
    · exact (safe.queued other e before p h).mono within (List.Subset.refl _)
  · intro connection other handle h
    obtain ⟨e, placed, issued⟩ := safe.numbered connection other handle h
    by_cases same : number = other
    · subst same
      obtain rfl := Client.batch.inj (Option.some.inj (found.symm.trans placed))
      exact ⟨d, put_batch found, follows.issued ▸ issued⟩
    · exact ⟨e, (List.getElem?_set_ne same).trans placed, issued⟩

/-- A run that its client serves queues its statement under a new ticket. -/
theorem Safe.submit (safe : Safe r history) {c : BatchClient} {connection : Connection} (sql : String)
    (found : r.clients[number]? = some (.batch c)) (serves : r.Serves number connection.config)
    : Safe (r.put number (.batch (c.submit sql).2))
        (.submitted connection number (c.submit sql).1 :: history)
      ∧ r.Within (r.put number (.batch (c.submit sql).2)) := by
  have within := Registry.within_put found fun _ serves => serves.submit sql
  have longer : history ⊆ .submitted connection number (c.submit sql).1 :: history :=
    List.subset_cons_self ..
  refine ⟨⟨?_, ?_, ?_, ?_, ?_, ?_⟩, within⟩
  · exact fun _ _ held _ same => safe.sound.mono within held same
  · intro other e placed p h
    rcases batch_of_put placed with ⟨rfl, rfl⟩ | before
    · rcases List.mem_append.1 h with h | h
      · exact (safe.queued other c found p h).mono within longer
      · obtain rfl := List.mem_singleton.1 h
        exact ⟨connection, .head _, serves.mono within⟩
    · exact (safe.queued other e before p h).mono within longer
  · intro submitter other handle h
    rcases List.mem_cons.1 h with h | h
    · cases h
      exact ⟨_, put_batch found, Nat.lt_succ_self _⟩
    · obtain ⟨e, placed, issued⟩ := safe.numbered submitter other handle h
      by_cases same : number = other
      · subst same
        obtain rfl := Client.batch.inj (Option.some.inj (found.symm.trans placed))
        exact ⟨_, put_batch found, Nat.lt_succ_of_lt issued⟩
      · exact ⟨e, (List.getElem?_set_ne same).trans placed, issued⟩
  · refine List.nodup_cons.2 ⟨fun h => ?_, safe.once⟩
    obtain ⟨event, past, named⟩ := List.mem_filterMap.1 h
    cases event with
    | submitted submitter other handle =>
      obtain ⟨rfl, ticket⟩ := Prod.mk.inj (Option.some.inj named)
      obtain ⟨e, placed, issued⟩ := safe.numbered submitter other handle past
      obtain rfl := Client.batch.inj (Option.some.inj (found.symm.trans placed))
      exact Nat.lt_irrefl _ (ticket ▸ issued)
    | _ => cases named
  · intro asker text request h
    rcases List.mem_cons.1 h with h | h
    · cases h
    · exact safe.sent asker text request h
  · intro other ticket request h
    rcases List.mem_cons.1 h with h | h
    · cases h
    · obtain ⟨asker, text, submitted, asks⟩ := safe.forwarded other ticket request h
      exact ⟨asker, text, longer submitted, asks⟩

/-- A client that is looked up was there before, or has an empty queue. -/
theorem Safe.lookup (safe : Safe r history) {config : Config} {found : Nat × Client}
    (looked : r.lookup config = .ok (found, later))
    : Safe later history ∧ r.Within later ∧ later.Serves found.1 config := by
  obtain ⟨placed, serves, sound, within⟩ := Registry.lookup_serves safe.sound looked
  obtain ⟨added, clients, fresh⟩ := Registry.lookup_clients looked
  refine ⟨⟨sound, ?_, ?_, safe.once, safe.sent, safe.forwarded⟩, within, found.2, placed, serves⟩
  · intro number c placed p h
    rw [clients] at placed
    by_cases early : number < r.clients.length
    · rw [List.getElem?_append_left early] at placed
      exact (safe.queued number c placed p h).mono within (List.Subset.refl _)
    · rw [List.getElem?_append_right (Nat.le_of_not_lt early)] at placed
      have empty : c.pending = [] := fresh _ (List.mem_of_getElem? placed)
      rw [empty] at h
      cases h
  · intro connection number handle h
    obtain ⟨c, placed, issued⟩ := safe.numbered connection number handle h
    obtain ⟨early, -⟩ := List.getElem?_eq_some_iff.1 placed
    exact ⟨c, clients ▸ (List.getElem?_append_left early).trans placed, issued⟩

/-- A right request, or none, leaves all safe. -/
theorem Safe.log (safe : Safe r history) {event : Event}
    (apart : ∀ connection number handle, event ≠ .submitted connection number handle)
    (sent : ∀ connection sql request, event = .sent connection sql request →
      connection.config.Asks sql request)
    (forwarded : ∀ number ticket request, event = .forwarded number ticket request →
      ∃ connection sql, .submitted connection number ⟨ticket, sql⟩ ∈ history
        ∧ connection.config.Asks sql request)
    : Safe r (event :: history) where
  sound := safe.sound
  queued other c placed p h :=
    (safe.queued other c placed p h).mono .refl (List.subset_cons_self ..)
  numbered connection other handle h := by
    rcases List.mem_cons.1 h with h | h
    · exact absurd h.symm (apart connection other handle)
    · exact safe.numbered connection other handle h
  once := by
    have same : submissions (event :: history) = submissions history := by
      cases event with
      | submitted connection number handle => exact absurd rfl (apart connection number handle)
      | _ => rfl
    exact same ▸ safe.once
  sent connection sql request h := by
    rcases List.mem_cons.1 h with h | h
    · exact sent connection sql request h.symm
    · exact safe.sent connection sql request h
  forwarded other ticket request h := by
    have older : ∃ connection sql, .submitted connection other ⟨ticket, sql⟩ ∈ history
        ∧ connection.config.Asks sql request := by
      rcases List.mem_cons.1 h with h | h
      · exact forwarded other ticket request h.symm
      · exact safe.forwarded other ticket request h
    obtain ⟨connection, sql, submitted, asks⟩ := older
    exact ⟨connection, sql, .tail _ submitted, asks⟩

theorem Safe.log_pinged (safe : Safe r history) {connection : Connection} {request : Http.Request}
    : Safe r (.pinged connection request :: history) :=
  safe.log (fun _ _ _ => by nofun) (fun _ _ _ => by nofun) (fun _ _ _ => by nofun)

/-- A statement that its own run sends is asked for as its connection has it. -/
theorem Safe.log_sent (safe : Safe r history) {connection : Connection} {sql : String}
    {request : Http.Request} (asks : connection.config.Asks sql request)
    : Safe r (.sent connection sql request :: history) := by
  refine safe.log (fun _ _ _ => by nofun) ?_ (fun _ _ _ => by nofun)
  intro asker text sent same
  cases same
  exact asks

/-- A queued statement is asked for as the connection has it that queued it. -/
theorem Safe.log_forwarded (safe : Safe r history) {connection : Connection} {p : Pending}
    {request : Http.Request}
    (submitted : .submitted connection number ⟨p.ticket, p.sql⟩ ∈ history)
    (asks : connection.config.Asks p.sql request)
    : Safe r (.forwarded number p.ticket request :: history) := by
  refine safe.log (fun _ _ _ => by nofun) (fun _ _ _ => by nofun) ?_
  intro other ticket sent same
  cases same
  exact ⟨connection, p.sql, submitted, asks⟩

theorem Task.Sound.client {task : Task} (sound : task.Sound r history) {client : Client}
    (found : r.clients[task.number]? = some client)
    : client.Serves task.connection.config := by
  obtain ⟨known, placed, serves⟩ := sound.serves
  obtain rfl := Option.some.inj (found.symm.trans placed)
  exact serves

/-- A run goes on with what it then holds. -/
theorem Task.Sound.next {task : Task} (sound : task.Sound r history) (within : r.Within later)
    {phase : Phase} (holds : phase.Holds later more task)
    : ∀ reached ∈ some phase, Task.Sound later more { task with phase := reached } := by
  intro reached goes
  cases goes
  refine ⟨sound.serves.mono within, ?_⟩
  cases phase <;> exact holds

theorem mem_of_mem_rest {α : Type} {before after : List α} {a b : α} (h : b ∈ before ++ after)
    : b ∈ before ++ a :: after := by
  rcases List.mem_append.1 h with h | h
  · exact List.mem_append_left _ h
  · exact List.mem_append_right _ (.tail _ h)

/-- Each piece of a run keeps all safe, and leaves the run sound where it goes on. -/
theorem Move.sound {task : Task} {next : Option Phase} {events : List Event}
    (move : Move r task later next events) (safe : Safe r history) (sound : task.Sound r history)
    : Safe later (events ++ history) ∧ r.Within later
      ∧ ∀ phase ∈ next, Task.Sound later (events ++ history) { task with phase } := by
  have holds := sound.holds
  have same : history ⊆ history := List.Subset.refl _
  cases move with
  | stream found phase sends =>
    have asks := (sound.client found).asks sends (sound.client found).database rfl
    exact ⟨safe.log_sent asks, .refl, nofun⟩
  | select found phase =>
    obtain ⟨safe, within⟩ := safe.follow found (Client.follows_useDatabase (sound.client found))
    exact ⟨safe, within, sound.next within trivial⟩
  | ping found phase => exact ⟨safe.log_pinged, .refl, sound.next .refl trivial⟩
  | alive answer found phase live => exact ⟨safe, .refl, sound.next .refl trivial⟩
  | choose found phase direct =>
    exact ⟨safe, .refl, sound.next .refl (sound.client found).database⟩
  | write found phase sends =>
    rw [phase] at holds
    have asks := (sound.client found).asks sends holds rfl
    exact ⟨safe.log_sent asks, .refl, nofun⟩
  | submit found phase queues =>
    obtain ⟨safe, within⟩ := safe.submit task.sql found sound.serves
    exact ⟨safe, within, sound.next within trivial⟩
  | @drain c handle found phase =>
    obtain ⟨after, within⟩ := safe.follow (d := c.drain.2) found ⟨rfl, rfl, rfl, nofun⟩
    refine ⟨after, within, sound.next within fun p h => ?_⟩
    have issued := safe.queued task.number c found p h
    exact ⟨(sound.client found).pending p h, issued.mono within same⟩
  | @forward c handle p sent request before after found phase sends =>
    rw [phase] at holds
    obtain ⟨database, connection, submitted, client, placed, serves⟩ := holds p (by simp)
    obtain rfl := Option.some.inj (placed.symm.trans found)
    have selected := database.trans ((sound.client found).database_eq serves)
    refine ⟨safe.log_forwarded submitted (serves.asks sends selected rfl), .refl, ?_⟩
    refine sound.next .refl fun q h => ?_
    obtain ⟨database, issued⟩ := holds q (mem_of_mem_rest h)
    exact ⟨database, issued.mono .refl (List.subset_cons_self ..)⟩
  | @refuse c handle p sent refusal before after found phase refused =>
    rw [phase] at holds
    obtain ⟨safe, within⟩ := safe.follow (d := c.answer p.ticket (.error refusal)) found
      ⟨rfl, rfl, rfl, fun _ => id⟩
    refine ⟨safe, within, sound.next within fun q h => ?_⟩
    obtain ⟨database, issued⟩ := holds q (mem_of_mem_rest h)
    exact ⟨database, issued.mono within same⟩
  | @reply c handle unsent ticket request before after reply found phase =>
    rw [phase] at holds
    obtain ⟨safe, within⟩ := safe.follow
      (d := c.answer ticket (BatchClient.outcome request reply)) found ⟨rfl, rfl, rfl, fun _ => id⟩
    refine ⟨safe, within, sound.next within fun q h => ?_⟩
    obtain ⟨database, issued⟩ := holds q h
    exact ⟨database, issued.mono within same⟩
  | finish phase => exact ⟨safe, .refl, sound.next .refl trivial⟩
  | @receive c handle found phase =>
    obtain ⟨safe, within⟩ := safe.follow (d := c.forget handle.ticket) found
      ⟨rfl, rfl, rfl, fun _ => id⟩
    exact ⟨safe, within, nofun⟩

-----------------------------------------------------------------------------------------
-- Every reachable world
-----------------------------------------------------------------------------------------

/-- A world in which no run can send a wrong request. -/
structure World.Sound (s : World) : Prop where
  safe : Safe s.registry s.history
  tasks : ∀ task ∈ s.tasks, task.Sound s.registry s.history

/-- Each piece of any run, and each reset, keeps the world sound. -/
theorem World.Sound.step {s t : World} (h : Step s t) (sound : s.Sound) : t.Sound := by
  cases h with
  | start connection text filled looked =>
    obtain ⟨safe, within, serves⟩ := sound.safe.lookup looked
    refine ⟨safe, fun task h => ?_⟩
    rcases List.mem_cons.1 h with rfl | h
    · exact ⟨serves, trivial⟩
    · exact (sound.tasks task h).mono within (List.Subset.refl _)
  | @move registry task next events before after tasks move =>
    obtain ⟨safe, within, goes⟩ := move.sound sound.safe (sound.tasks task (by simp [tasks]))
    have others (other : Task) (h : other ∈ before ++ after)
        : other.Sound registry (events ++ s.history) :=
      (sound.tasks other (tasks ▸ mem_of_mem_rest h)).mono within (List.subset_append_right ..)
    refine ⟨safe, fun other h => ?_⟩
    rcases List.mem_append.1 h with h | h
    · rcases List.mem_append.1 h with h | h
      · exact others other (List.mem_append_left _ h)
      · obtain ⟨phase, now, rfl⟩ := Option.map_eq_some_iff.1 (Option.mem_toList.1 h)
        exact goes phase now
    · exact others other (List.mem_append_right _ h)
  | leave before after tasks =>
    exact ⟨sound.safe, fun other h => sound.tasks other (tasks ▸ mem_of_mem_rest h)⟩
  | reset config =>
    obtain ⟨⟨registry, queued, numbered, once, sent, forwarded⟩, tasks⟩ := sound
    refine ⟨⟨registry.reset config, queued, numbered, once, sent, forwarded⟩, fun task h => ?_⟩
    exact (tasks task h).mono (fun _ client found => ⟨client, found, fun _ => id⟩)
      (List.Subset.refl _)

/-- However runs interleave, no run can send a wrong request, by induction on the pieces. -/
theorem Reachable.sound {s : World} (reached : Reachable s) : s.Sound := by
  induction reached with
  | new => exact ⟨.new, fun _ h => by cases h⟩
  | step _ h ih => exact ih.step h

/-- What connections may rely on that share a registry. -/
structure Isolated (history : List Event) : Prop where
  /-- The request of a statement that its own run sends is that of its connection. -/
  sent : ∀ connection sql request, .sent connection sql request ∈ history →
    connection.config.Asks sql request
  /-- So is the request of a queued statement, whichever run sends it. -/
  forwarded : ∀ number ticket request, .forwarded number ticket request ∈ history →
    ∃ connection sql, .submitted connection number ⟨ticket, sql⟩ ∈ history
      ∧ connection.config.Asks sql request
  /-- One connection queued it. -/
  once : (submissions history).Nodup

/-- Connections that share a registry send only their own requests, under every interleaving of
their runs and of resets.
-/
theorem isolated_of_reachable {s : World} (reached : Reachable s) : Isolated s.history :=
  have safe := reached.sound.safe
  ⟨safe.sent, safe.forwarded, safe.once⟩

open Connection (ledger ledgerEndpoint reaches_ledger pong pingFault?_pong)

/-- The client of a connection that queues its statements. -/
def ledgerClient : BatchClient where
  endpoint := ledgerEndpoint
  database := "default"

theorem lookup_ledger
    : ({} : Registry).lookup ledger.config
      = .ok ((0, .batch ledgerClient), {
          clients := [.batch ledgerClient]
          held := [(ledger.config.identity, 0)] }) := by
  obtain ⟨base, based, made⟩ := bind_eq_ok.1 reaches_ledger.endpoint
  have connects : Client.connect ledger.config = .ok (.batch ledgerClient) := by
    rw [Client.connect, based, ledgerClient, ← pure_eq_ok.1 made]
    rfl
  exact Registry.lookup_eq_ok.2 (.inr ⟨rfl, _, connects, rfl, rfl⟩)

/-- A run queues its statement, drains it and sends it. -/
theorem isolated_queueing
    : ∃ s : World, Isolated s.history
      ∧ .forwarded 0 0 (ledger.request ledgerEndpoint "select 1") ∈ s.history := by
  have heard : Endpoint.pinged ledgerEndpoint.pingRequest (.ok pong) = .ok () := by
    simp [Endpoint.pinged, pingFault?_pong]
  have sends := Connection.outgoing_of_reaches reaches_ledger "select 1"
  have start := Reachable.step .new (.start ledger "select 1" rfl lookup_ledger)
  have select := start.step (.move [] [] rfl (.select rfl rfl))
  have ping := select.step (.move [] [] rfl (.ping rfl rfl))
  have alive := ping.step (.move [] [] rfl (.alive _ rfl rfl heard))
  have submit := alive.step (.move [] [] rfl (.submit rfl rfl rfl))
  have drain := submit.step (.move [] [] rfl (.drain rfl rfl))
  have forward := drain.step (.move [] [] rfl (.forward [] [] rfl rfl sends))
  exact ⟨_, isolated_of_reachable forward, .head _⟩

end Concurrent

end ColumnStore
