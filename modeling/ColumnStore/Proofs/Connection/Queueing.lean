import ColumnStore.Proofs.Connection.Operations

/-! Whether statements are queued first makes no difference to a sole caller. Two runs that differ in
nothing else ask the same of the server and give the same, and neither leaves anything queued.
-/

namespace ColumnStore

-----------------------------------------------------------------------------------------
-- Sessions that a sole caller cannot tell apart
-----------------------------------------------------------------------------------------

/-- Two clients with the same server and nothing queued. The databases of batch clients may differ: each
statement of a connection selects its own.
-/
inductive Client.Alike : Client → Client → Prop
  | streaming (c : StreamingClient) : Alike (streaming c) (streaming c)
  | batch {c d : BatchClient} (endpoint : c.endpoint = d.endpoint) (left : c.IsIdle)
      (right : d.IsIdle)
    : Alike (batch c) (batch d)

namespace Client.Alike

variable {c d : Client}

/-- A client with nothing queued is like itself. -/
theorem refl (idle : c.IsIdle) : c.Alike c := by
  cases c with
  | streaming c => exact .streaming c
  | batch c => exact .batch rfl idle idle

theorem isIdle (alike : c.Alike d) : c.IsIdle ∧ d.IsIdle := by
  cases alike with
  | streaming => exact ⟨trivial, trivial⟩
  | batch _ left right => exact ⟨left, right⟩

end Client.Alike

namespace Session

variable {config : Config} {s t : Session}

/-- Nothing is queued for some settings: their client is idle, if they have one. -/
def IsClear (config : Config) (s : Session) : Prop :=
  ∀ found, s.registry.find? config.identity = some found → found.2.IsIdle

/-- Two sessions in which some settings have clients that are alike, or none, and in which the same ids
come next.
-/
structure Alike (config : Config) (s t : Session) : Prop where
  ids : s.ids = t.ids
  clients
    : s.registry.find? config.identity = none ∧ t.registry.find? config.identity = none
      ∨ ∃ n c m d, s.registry.find? config.identity = some (n, c)
        ∧ t.registry.find? config.identity = some (m, d) ∧ c.Alike d

theorem Alike.refl (clear : s.IsClear config) : Alike config s s := by
  refine ⟨rfl, ?_⟩
  cases finds : s.registry.find? config.identity with
  | none => exact .inl ⟨rfl, rfl⟩
  | some found => exact .inr ⟨_, _, _, _, rfl, rfl, .refl (clear found finds)⟩

theorem Alike.isClear (alike : Alike config s t) : s.IsClear config ∧ t.IsClear config := by
  rcases alike.clients with ⟨none, missing⟩ | ⟨n, c, m, d, finds, other, same⟩
  · exact ⟨fun found h => by simp [none] at h, fun found h => by simp [missing] at h⟩
  · constructor
    · intro found h
      obtain rfl := Option.some.inj (finds.symm.trans h)
      exact same.isIdle.1
    · intro found h
      obtain rfl := Option.some.inj (other.symm.trans h)
      exact same.isIdle.2

end Session

-----------------------------------------------------------------------------------------
-- Runs that agree
-----------------------------------------------------------------------------------------

namespace Connection

/-- The connection with its statements queued first, or sent at once. -/
def queueing (c : Connection) (queues : Bool) : Connection :=
  { c with config := { c.config with async := queues } }

/-- Two runs that a sole caller and a server cannot tell apart. -/
def Agree (config : Config) {α : Type} (one two : Run α) : Prop :=
  ∀ (s t : Session) (server : Http.Server) (log : List Http.Exchange), Session.Alike config s t →
    ∃ result s' t' log', one.run s server log = ((result, s'), log')
      ∧ two.run t server log = ((result, t'), log') ∧ Session.Alike config s' t'

variable {config : Config} {α β : Type}

theorem agree_pure (a : α) : Agree config (pure a) (pure a) :=
  fun s t _ log alike => ⟨.ok a, s, t, log, rfl, rfl, alike⟩

/-- To read what is at hand asks nothing. -/
theorem agree_reading (result : Except Error α)
    : Agree config (liftM result : Run α) (liftM result) := by
  intro s t server log alike
  refine ⟨result, s, t, log, ?_, ?_, alike⟩ <;> cases result <;> rfl

/-- Runs that agree do so one after the other. -/
theorem Agree.bind {one two : Run α} {next other : α → Run β} (first : Agree config one two)
    (rest : ∀ a, Agree config (next a) (other a))
    : Agree config (one >>= next) (two >>= other) := by
  intro s t server log alike
  obtain ⟨result, s', t', log', left, right, still⟩ := first s t server log alike
  rw [run_bind, run_bind, left, right]
  cases result with
  | error e => exact ⟨.error e, s', t', log', rfl, rfl, still⟩
  | ok a => exact rest a s' t' server log' still

/-- To take an id asks nothing, and takes the same one. -/
theorem agree_takeId : Agree config takeId takeId := by
  intro s t server log alike
  refine ⟨.ok s.ids.take.1, { s with ids := s.ids.take.2 }, { t with ids := t.ids.take.2 }, log, rfl,
    ?_, ⟨?_, alike.clients⟩⟩
  · rw [alike.ids]
    rfl
  · exact congrArg (fun ids => ids.take.2) alike.ids

-----------------------------------------------------------------------------------------
-- Statements
-----------------------------------------------------------------------------------------

variable {c : Connection} (p q : Bool)

/-- Over an idle client a statement is a conversation, queued or not, and the client is idle again. -/
theorem run_runBatch_of_clear (number : Nat) {client : BatchClient} (idle : client.IsIdle)
    (sql : String) (s : Session)
    (finds : s.registry.find? c.config.identity = some (number, .batch client))
    (server : Http.Server) (log : List Http.Exchange)
    : ∃ after : BatchClient, ∃ later : Session, after.IsIdle ∧ after.endpoint = client.endpoint
      ∧ later.ids = s.ids
      ∧ later.registry.find? c.config.identity = some (number, .batch after)
      ∧ (c.runBatch number client sql).run s server log
        = ((((client.endpoint.ping >>= fun _ =>
              BatchClient.run client.endpoint sql c.config.database).run server log).1, later),
            ((client.endpoint.ping >>= fun _ =>
              BatchClient.run client.endpoint sql c.config.database).run server log).2) := by
  let selected := client.useDatabase c.config.database
  let kept : Session := { s with registry := s.registry.put number (.batch selected) }
  have calm : selected.IsIdle := ⟨idle.pending, idle.answers⟩
  have found : kept.registry.find? c.config.identity = some (number, .batch selected) :=
    Registry.find?_put finds
  have same : selected.endpoint = client.endpoint := rfl
  rw [runBatch, keep_bind, run_overWire_bind, run_wire_bind, same]
  obtain ⟨pinged, heard⟩ := client.endpoint.ping.run server log
  cases pinged with
  | error e => exact ⟨selected, kept, calm, rfl, rfl, found, rfl⟩
  | ok alive =>
    cases queues : c.config.async with
    | false => exact ⟨selected, kept, calm, rfl, rfl, found, rfl⟩
    | true =>
      obtain ⟨after, still, endpoint, -, run⟩ :=
        run_runQueued_of_idle number calm sql kept server heard
      exact ⟨after, { kept with registry := kept.registry.put number (.batch after) }, still, endpoint,
        rfl, Registry.find?_put found, run⟩

/-- A statement over clients that are alike asks the same and gives the same, queued or not. -/
theorem agree_runBatch (n m : Nat) {client other : BatchClient} (sql : String) {s t : Session}
    (ids : s.ids = t.ids)
    (finds : s.registry.find? c.config.identity = some (n, .batch client))
    (otherwise : t.registry.find? c.config.identity = some (m, .batch other))
    (alike : (Client.batch client).Alike (.batch other)) (server : Http.Server)
    (log : List Http.Exchange)
    : ∃ result s' t' log',
        ((c.queueing p).runBatch n client sql).run s server log = ((result, s'), log')
        ∧ ((c.queueing q).runBatch m other sql).run t server log = ((result, t'), log')
        ∧ Session.Alike c.config s' t' := by
  cases alike with
  | batch endpoint left right =>
    obtain ⟨after, later, calm, served, kept, found, run⟩ :=
      run_runBatch_of_clear (c := c.queueing p) n left sql s finds server log
    obtain ⟨after', later', calm', served', kept', found', run'⟩ :=
      run_runBatch_of_clear (c := c.queueing q) m right sql t otherwise server log
    rw [← endpoint] at run'
    refine ⟨_, later, later', _, run, run', kept.trans (ids.trans kept'.symm), .inr ?_⟩
    refine ⟨n, _, m, _, found, found', .batch ?_ calm calm'⟩
    rw [served, served', endpoint]

/-- What settings look up in sessions that are alike is alike, and found from then on. -/
theorem lookup_of_alike {s t : Session} (alike : Session.Alike c.config s t)
    : (∃ e, s.registry.lookup (c.queueing p).config = .error e
        ∧ t.registry.lookup (c.queueing q).config = .error e)
      ∨ ∃ n client m other r r', s.registry.lookup (c.queueing p).config = .ok ((n, client), r)
        ∧ t.registry.lookup (c.queueing q).config = .ok ((m, other), r') ∧ client.Alike other
        ∧ r.find? c.config.identity = some (n, client)
        ∧ r'.find? c.config.identity = some (m, other) := by
  rcases alike.clients with ⟨none, missing⟩ | ⟨n, client, m, other, finds, found, same⟩
  · cases connected : Client.connect c.config with
    | error e =>
      exact .inl ⟨e, Registry.lookup_eq_error.2 ⟨none, connected⟩,
        Registry.lookup_eq_error.2 ⟨missing, connected⟩⟩
    | ok client =>
      have one : s.registry.lookup (c.queueing p).config = .ok (_, _) :=
        Registry.lookup_eq_ok.2 (.inr ⟨none, client, connected, rfl, rfl⟩)
      have two : t.registry.lookup (c.queueing q).config = .ok (_, _) :=
        Registry.lookup_eq_ok.2 (.inr ⟨missing, client, connected, rfl, rfl⟩)
      exact .inr ⟨_, client, _, client, _, _, one, two, .refl (Client.isIdle_connect connected),
        Registry.find?_of_lookup one, Registry.find?_of_lookup two⟩
  · exact .inr ⟨n, client, m, other, s.registry, t.registry,
      Registry.lookup_eq_ok.2 (.inl ⟨finds, rfl⟩), Registry.lookup_eq_ok.2 (.inl ⟨found, rfl⟩), same,
      finds, found⟩

/-- A statement of a sole caller does not depend on whether it is queued first. -/
theorem agree_runSql (sql : String)
    : Agree c.config ((c.queueing p).runSql sql) ((c.queueing q).runSql sql) := by
  cases filled : (Text.trimmed sql).isEmpty with
  | true =>
    rw [runSql_of_blank _ filled, runSql_of_blank _ filled]
    exact agree_pure []
  | false =>
    intro s t server log alike
    rw [runSql_of_filled _ filled, runSql_of_filled _ filled, run_bind, run_bind, run_client,
      run_client]
    rcases lookup_of_alike p q alike with ⟨e, one, two⟩ | ⟨n, client, m, other, r, r', one, two, same,
      finds, found⟩
    · rw [one, two]
      exact ⟨.error e, s, t, log, rfl, rfl, alike⟩
    · rw [one, two]
      cases same with
      | streaming client =>
        exact ⟨_, { s with registry := r }, { t with registry := r' }, _, rfl, rfl, alike.ids,
          .inr ⟨n, _, m, _, finds, found, .streaming client⟩⟩
      | batch endpoint left right =>
        exact agree_runBatch p q n m (Text.trimmed sql) (s := { s with registry := r })
          (t := { t with registry := r' }) alike.ids finds found (.batch endpoint left right) server log

theorem agree_execute (sql : String)
    : Agree c.config ((c.queueing p).execute sql) ((c.queueing q).execute sql) :=
  (agree_runSql p q sql).bind fun _ => agree_pure ()

/-- Statements one after another do not depend on it either, by induction on them. -/
theorem agree_executeAll (statements : List String)
    : Agree c.config ((c.queueing p).executeAll statements)
        ((c.queueing q).executeAll statements) := by
  induction statements with
  | nil => exact agree_pure ()
  | cons sql rest ih => exact (agree_execute p q sql).bind fun _ => ih

theorem agree_count (query : Query)
    : Agree c.config ((c.queueing p).count query) ((c.queueing q).count query) :=
  (agree_reading _).bind fun _ => (agree_runSql p q _).bind fun rows => agree_reading (countOf rows)

-----------------------------------------------------------------------------------------
-- Operations
-----------------------------------------------------------------------------------------

/-- No operation depends on whether statements are queued first, by its cases. -/
theorem agree_perform {α : Type} (op : Operation α)
    : Agree c.config (op.perform (c.queueing p)) (op.perform (c.queueing q)) := by
  cases op with
  | select | selectRaw | update | delete => exact (agree_reading _).bind fun _ => agree_runSql p q _
  | execute sql => exact agree_execute p q sql
  | ask sql =>
    rw [Operation.perform, Operation.perform]
    exact agree_runSql p q sql
  | count query => exact agree_count p q query
  | insert query values =>
    cases empty : values.ordered.isEmpty with
    | true =>
      have done (b : Bool) : (c.queueing b).insert query values = pure () := if_pos empty
      rw [Operation.perform, Operation.perform, done, done]
      exact agree_pure ()
    | false =>
      rw [Operation.perform, Operation.perform, insert_of_filled empty, insert_of_filled empty]
      exact (agree_count p q query).bind fun _ => agree_execute p q _
  | insertGetId =>
    exact agree_takeId.bind fun id => (agree_execute p q _).bind fun _ => agree_pure id
  | truncate => exact agree_execute p q _
  | hasTable | getTables | getColumns => exact (agree_runSql p q _).bind fun _ => agree_pure _
  | createTable | extendTable => exact agree_executeAll p q _
  | addColumn | createIndex | dropTable | dropTableIfExists => exact agree_execute p q _
  | dropAllTables =>
    have listing : Agree c.config (c.queueing p).getTables (c.queueing q).getTables :=
      (agree_runSql p q _).bind fun _ => agree_pure _
    exact listing.bind fun _ => (agree_executeAll p q _).bind fun _ => agree_pure _

/-- What is seen of an operation: its result, and all exchanges with the server so far. -/
structure Seen : Type 1 where
  {Result : Type}
  result : Except Error Result
  log : List Http.Exchange

/-- Operations one after another, whatever becomes of each: what is seen of it, and the session after
it.
-/
def performEach (c : Connection) (server : Http.Server)
    : List ((α : Type) × Operation α) → Session → List Http.Exchange → List (Seen × Session)
  | [], _, _ => []
  | ⟨_, op⟩ :: rest, session, log =>
    let ((result, session), log) := (op.perform c).run session server log
    (⟨result, log⟩, session) :: performEach c server rest session log

/-- Operations in sessions that are alike are seen alike, by induction on them. -/
theorem alike_performEach (server : Http.Server) (calls : List ((α : Type) × Operation α))
    {s t : Session} (alike : Session.Alike c.config s t) (log : List Http.Exchange)
    : List.Forall₂ (fun one two => one.1 = two.1 ∧ Session.Alike c.config one.2 two.2)
        ((c.queueing p).performEach server calls s log)
        ((c.queueing q).performEach server calls t log) := by
  induction calls generalizing s t log with
  | nil => exact .nil
  | cons call rest ih =>
    obtain ⟨α, op⟩ := call
    obtain ⟨result, s', t', log', left, right, still⟩ := agree_perform p q op s t server log alike
    rw [performEach, performEach, left, right]
    exact .cons ⟨rfl, still⟩ (ih still log')

/-- A sole caller whose client has nothing queued sees no difference between statements that are queued
first and statements that are sent at once: for every server each of its operations, one after another,
has the same result and leaves the same exchanges behind, and after each of them, whether it
succeeds or fails, nothing is queued.
-/
theorem performEach_queueing (c : Connection) (server : Http.Server)
    (calls : List ((α : Type) × Operation α)) {session : Session}
    (clear : session.IsClear c.config) (log : List Http.Exchange)
    : List.Forall₂ (fun queued direct =>
          queued.1 = direct.1 ∧ queued.2.IsClear c.config ∧ direct.2.IsClear c.config)
        ((c.queueing true).performEach server calls session log)
        ((c.queueing false).performEach server calls session log) := by
  refine (alike_performEach true false server calls (.refl clear) log).imp ?_
  rintro queued direct ⟨same, alike⟩
  exact ⟨same, alike.isClear⟩

/-- A session whose client has served others before: another database is selected, and results wait. -/
def rested : Session where
  registry := {
    clients := [.batch {
      endpoint := ledgerEndpoint, database := "other", issued := 2, answers := [(0, .ok [])] }]
    held := [(ledger.config.identity, 0)] }

/-- Against a server without rows an insert fails at its count, and the operations around it go on. -/
theorem performEach_queueing_rested
    : rested.IsClear ledger.config
      ∧ List.Forall₂ (fun queued direct =>
          queued.1 = direct.1 ∧ queued.2.IsClear ledger.config ∧ direct.2.IsClear ledger.config)
        ((ledger.queueing true).performEach rowless
          [⟨_, .select users⟩, ⟨_, .insert users (.many mixedRecords)⟩, ⟨_, .dropAllTables⟩] rested [])
        ((ledger.queueing false).performEach rowless
          [⟨_, .select users⟩, ⟨_, .insert users (.many mixedRecords)⟩, ⟨_, .dropAllTables⟩] rested
          []) := by
  have clear : rested.IsClear ledger.config := by
    intro found finds
    have held : rested.registry.find? ledger.config.identity
        = rested.registry.clients.head?.map (0, ·) := by
      rfl
    rw [held] at finds
    obtain rfl := Option.some.inj finds
    exact ⟨rfl, by simp⟩
  exact ⟨clear, performEach_queueing ledger rowless _ clear []⟩

end Connection

end ColumnStore
