import ColumnStore.Client.Registry
import ColumnStore.Proofs.Client.Sending

/-! A client serves settings when all that its requests say of the server, the asker and the database
is what the settings say. The registry hands a client only to settings that it serves.
-/

namespace ColumnStore

-----------------------------------------------------------------------------------------
-- Clients and the settings that they serve
-----------------------------------------------------------------------------------------

/-- The server that settings name, with the identity on it. -/
def Config.endpoint (c : Config) : Except Error Endpoint := do
  return ⟨← c.baseUrl, c.username, c.password, c.readOnly⟩

/-- The format in which a mode asks for results. -/
def Mode.format : Mode → Format
  | streaming => .lines
  | batch => .whole

namespace Client

def pending : Client → List Pending
  | streaming _ => []
  | batch c => c.pending

/-- A client whose requests say what settings say. -/
structure Serves (config : Config) (client : Client) : Prop where
  mode : client.mode = config.mode
  endpoint : config.endpoint = .ok client.endpoint
  database : client.database = config.database
  pending : ∀ p ∈ client.pending, p.database = config.database

variable {config other : Config} {client : Client}

theorem serves_connect (connected : connect config = .ok client) : client.Serves config := by
  obtain ⟨base, based, made⟩ := bind_eq_ok.1 connected
  have endpoint : config.endpoint
      = .ok ⟨base, config.username, config.password, config.readOnly⟩ := by
    rw [Config.endpoint, based]
    rfl
  cases mode : config.mode <;> rw [mode] at made <;> obtain rfl := pure_eq_ok.1 made
  · exact ⟨mode.symm, endpoint, rfl, nofun⟩
  · exact ⟨mode.symm, endpoint, rfl, nofun⟩

theorem pending_connect (connected : connect config = .ok client) : client.pending = [] := by
  obtain ⟨base, -, made⟩ := bind_eq_ok.1 connected
  cases mode : config.mode <;> rw [mode] at made <;> obtain rfl := pure_eq_ok.1 made <;> rfl

/-- The identity of settings decides which clients serve them. -/
theorem Serves.of_identity_eq (same : config.identity = other.identity)
    (serves : client.Serves config)
    : client.Serves other := by
  unfold Config.identity at same
  simp only [Identity.mk.injEq] at same
  obtain ⟨mode, host, port, username, password, database, useTls, readOnly⟩ := same
  have endpoint : other.endpoint = config.endpoint := by
    simp only [Config.endpoint, Config.baseUrl, Config.scheme, host, port, username, password, useTls,
      readOnly]
  exact ⟨mode ▸ serves.mode, endpoint ▸ serves.endpoint, database ▸ serves.database,
    database ▸ serves.pending⟩

theorem Serves.database_eq (serves : client.Serves config) (another : client.Serves other)
    : config.database = other.database :=
  serves.database.symm.trans another.database

/-- A batch client after an operation that queues nothing and leaves it with the same requests to
make.
-/
structure Follows (c d : BatchClient) : Prop where
  endpoint : d.endpoint = c.endpoint
  database : d.database = c.database
  issued : d.issued = c.issued
  pending : ∀ p ∈ d.pending, p ∈ c.pending

theorem Follows.serves {c d : BatchClient} (follows : Follows c d)
    (serves : (batch c).Serves config)
    : (batch d).Serves config where
  mode := serves.mode
  endpoint := serves.endpoint.trans (congrArg _ follows.endpoint.symm)
  database := follows.database.trans serves.database
  pending p h := serves.pending p (follows.pending p h)

/-- A client that selects the database of settings which it serves has selected it already. -/
theorem follows_useDatabase {c : BatchClient} (serves : (batch c).Serves config)
    : Follows c (c.useDatabase config.database) :=
  ⟨rfl, serves.database.symm, rfl, fun _ => id⟩

/-- A statement is queued with the database of all settings that the client serves. -/
theorem Serves.submit {c : BatchClient} (serves : (batch c).Serves config) (sql : String)
    : (batch (c.submit sql).2).Serves config where
  mode := serves.mode
  endpoint := serves.endpoint
  database := serves.database
  pending p h := by
    rcases List.mem_append.1 h with h | h
    · exact serves.pending p h
    · obtain rfl := List.mem_singleton.1 h
      exact serves.database

end Client

-----------------------------------------------------------------------------------------
-- The registry
-----------------------------------------------------------------------------------------

namespace Registry

variable {r later : Registry} {config : Config} {number : Nat}

/-- A lookup gives the client that the identity has, or else a new one. -/
theorem lookup_eq_ok {found : Nat × Client}
    : r.lookup config = .ok (found, later)
      ↔ r.find? config.identity = some found ∧ later = r
        ∨ r.find? config.identity = none ∧ ∃ client, Client.connect config = .ok client
          ∧ found = (r.clients.length, client)
          ∧ later = {
            clients := r.clients ++ [client]
            held := (config.identity, r.clients.length) :: r.held } := by
  unfold lookup
  cases r.find? config.identity with
  | some known => simp [eq_comm]
  | none =>
    simp only [reduceCtorEq, false_and, true_and, false_or, bind_eq_ok, pure_eq_ok, Prod.mk.injEq,
      @eq_comm _ _ found, @eq_comm _ _ later]

/-- A lookup fails where the identity has no client and its settings do not connect. -/
theorem lookup_eq_error {e : Error}
    : r.lookup config = .error e
      ↔ r.find? config.identity = none ∧ Client.connect config = .error e := by
  unfold lookup
  cases r.find? config.identity with
  | some known => simp
  | none => cases Client.connect config <;> simp [bind, Except.bind, pure, Except.pure]

/-- A client, by its number, that serves settings. -/
def Serves (r : Registry) (number : Nat) (config : Config) : Prop :=
  ∃ client, r.clients[number]? = some client ∧ client.Serves config

/-- A later registry: no client is lost, and each serves what it served. -/
def Within (r later : Registry) : Prop :=
  ∀ (number : Nat) (client : Client), r.clients[number]? = some client →
    ∃ known : Client, later.clients[number]? = some known
      ∧ ∀ config, client.Serves config → known.Serves config

theorem Serves.mono (serves : r.Serves number config) (within : r.Within later)
    : later.Serves number config := by
  obtain ⟨client, found, serves⟩ := serves
  obtain ⟨known, found, kept⟩ := within number client found
  exact ⟨known, found, kept config serves⟩

theorem Within.refl : r.Within r :=
  fun _ client found => ⟨client, found, fun _ => id⟩

/-- An identity has only clients that serve its settings. -/
def Sound (r : Registry) : Prop :=
  ∀ identity number, (identity, number) ∈ r.held → ∀ config : Config,
    config.identity = identity → r.Serves number config

theorem find?_eq_some {identity : Identity} {found : Nat × Client}
    (finds : r.find? identity = some found)
    : (identity, found.1) ∈ r.held ∧ r.clients[found.1]? = some found.2 := by
  obtain ⟨number, holds, rest⟩ := Option.bind_eq_some_iff.1 finds
  obtain ⟨client, placed, made⟩ := Option.bind_eq_some_iff.1 rest
  obtain rfl := Option.some.inj made
  obtain ⟨before, after, whole, -⟩ := List.lookup_eq_some_iff.1 holds
  exact ⟨by simp [whole], placed⟩

theorem within_append (client : Client) (held : List (Identity × Nat))
    : r.Within { clients := r.clients ++ [client], held } := by
  intro number known found
  obtain ⟨early, -⟩ := List.getElem?_eq_some_iff.1 found
  exact ⟨known, (List.getElem?_append_left early).trans found, fun _ => id⟩

/-- A later registry with the same identities is sound. -/
theorem Sound.mono (sound : r.Sound) (within : r.Within later)
    {identity : Identity} {number : Nat} (h : (identity, number) ∈ r.held) {config : Config}
    (same : config.identity = identity)
    : later.Serves number config :=
  (sound identity number h config same).mono within

/-- A lookup gives a client that serves the settings, and keeps the registry sound. -/
theorem lookup_serves {found : Nat × Client} (sound : r.Sound)
    (looked : r.lookup config = .ok (found, later))
    : later.clients[found.1]? = some found.2 ∧ found.2.Serves config ∧ later.Sound
      ∧ r.Within later := by
  rcases lookup_eq_ok.1 looked with ⟨finds, rfl⟩ | ⟨-, client, connected, rfl, rfl⟩
  · obtain ⟨held, placed⟩ := find?_eq_some finds
    obtain ⟨client, placed', serves⟩ := sound _ _ held config rfl
    obtain rfl := Option.some.inj (placed'.symm.trans placed)
    exact ⟨placed, serves, sound, .refl⟩
  · have serves := Client.serves_connect connected
    have placed : (r.clients ++ [client])[r.clients.length]? = some client := by simp
    refine ⟨placed, serves, ?_, within_append client _⟩
    intro identity number held other same
    rcases List.mem_cons.1 held with now | before
    · obtain ⟨rfl, rfl⟩ := Prod.mk.inj now
      exact ⟨client, placed, serves.of_identity_eq same.symm⟩
    · exact sound.mono (within_append client _) before same

/-- A lookup adds at most one client, which is new. -/
theorem lookup_clients {found : Nat × Client} (looked : r.lookup config = .ok (found, later))
    : ∃ added : List Client, later.clients = r.clients ++ added
      ∧ ∀ client ∈ added, client.pending = [] := by
  rcases lookup_eq_ok.1 looked with ⟨-, rfl⟩ | ⟨-, client, connected, -, rfl⟩
  · exact ⟨[], (List.append_nil _).symm, nofun⟩
  · refine ⟨[client], rfl, fun other h => ?_⟩
    obtain rfl := List.mem_singleton.1 h
    exact Client.pending_connect connected

theorem Sound.reset (sound : r.Sound) (config : Config) : (r.reset config).2.Sound :=
  fun identity number held => sound identity number (List.mem_filter.1 held).1

theorem put_put (number : Nat) (one two : Client)
    : (r.put number one).put number two = r.put number two := by
  simp [put]

theorem put_self {client : Client} (found : r.clients[number]? = some client)
    : r.put number client = r := by
  obtain ⟨early, rfl⟩ := List.getElem?_eq_some_iff.1 found
  simp [put]

/-- A client that is changed and serves what it served is no loss. -/
theorem within_put {client changed : Client} (found : r.clients[number]? = some client)
    (kept : ∀ config, client.Serves config → changed.Serves config)
    : r.Within (r.put number changed) := by
  obtain ⟨early, -⟩ := List.getElem?_eq_some_iff.1 found
  intro other known placed
  by_cases same : number = other
  · subst same
    obtain rfl := Option.some.inj (found.symm.trans placed)
    exact ⟨changed, List.getElem?_set_self early, kept⟩
  · exact ⟨known, (List.getElem?_set_ne same).trans placed, fun _ => id⟩

end Registry

end ColumnStore
