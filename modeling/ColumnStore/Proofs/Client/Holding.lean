import ColumnStore.Keyed
import ColumnStore.Proofs.Concurrent.Identity
import Mathlib.Data.List.Nodup

/-! A registry holds one client for each identity. Which clients its lookups give is read off the history
of its calls alone: a client is given to settings of its identity until the identity is reset, and
never again.
-/

namespace ColumnStore

/-- Whether two settings agree on all that decides which client a connection gets. -/
def Config.Agrees (a b : Config) : Prop :=
  a.mode = b.mode ∧ a.host = b.host ∧ a.port = b.port ∧ a.username = b.username
    ∧ a.password = b.password ∧ a.database = b.database ∧ a.useTls = b.useTls
    ∧ a.readOnly = b.readOnly

theorem Config.agrees_iff {a b : Config} : a.Agrees b ↔ a.identity = b.identity := by
  simp [Agrees, identity]

/-- Settings of one identity connect alike: the identity has all that connecting reads. -/
theorem Client.connect_eq {a b : Config} (same : a.identity = b.identity)
    : connect a = connect b := by
  obtain ⟨mode, host, port, username, password, database, useTls, readOnly⟩ := Config.agrees_iff.2 same
  simp only [connect, Config.baseUrl, Config.scheme, mode, host, port, username, password, database,
    useTls, readOnly]

namespace Registry

-----------------------------------------------------------------------------------------
-- Histories
-----------------------------------------------------------------------------------------

/-- What is asked of a registry. -/
inductive Call where
  | lookup (config : Config)
  | reset (config : Config)

/-- What a call came to. -/
inductive Event where
  | found (config : Config) (number : Nat) (client : Client)
  | refused (config : Config) (e : Error)
  | reset (config : Config) (held : Bool)

/-- A call with what it came to. A lookup that fails has no registry to give. -/
def call (r : Registry) : Call → Event × Registry
  | .lookup config =>
    match r.lookup config with
    | .ok ((number, client), later) => (.found config number client, later)
    | .error e => (.refused config e, r)
  | .reset config => (.reset config (r.reset config).1, (r.reset config).2)

/-- What calls on a new registry came to, latest first, and the registry after them. -/
def history : List Call → List Event × Registry
  | [] => ([], {})
  | latest :: earlier =>
    let (events, r) := history earlier
    let (event, later) := r.call latest
    (event :: events, later)

/-- Whether an event gave up the client of an identity. -/
def Event.Releases (identity : Identity) : Event → Prop
  | reset config held => held = true ∧ config.identity = identity
  | _ => False

namespace Event

variable {config : Config} {identity : Identity}

@[simp]
theorem not_releases_found {number : Nat} {client : Client}
    : ¬ (found config number client).Releases identity :=
  id

@[simp]
theorem not_releases_refused {e : Error} : ¬ (refused config e).Releases identity :=
  id

@[simp]
theorem releases_reset {held : Bool}
    : (reset config held).Releases identity ↔ held = true ∧ config.identity = identity :=
  .rfl

end Event

/-- After a history an identity is held: it was looked up, and not given up since. -/
def Holds (events : List Event) (identity : Identity) : Prop :=
  ∃ since config number client earlier,
    events = since ++ .found config number client :: earlier ∧ config.identity = identity
    ∧ ∀ e ∈ since, ¬ e.Releases identity

/-- What a call can come to, with the registry after it. -/
inductive Step (r : Registry) : Event → Registry → Prop
  | known {config : Config} {number : Nat} {client : Client}
      (finds : r.find? config.identity = some (number, client))
    : Step r (.found config number client) r
  | made {config : Config} {client : Client} (missing : r.find? config.identity = none)
      (connected : Client.connect config = .ok client)
    : Step r (.found config r.clients.length client) {
        clients := r.clients ++ [client]
        held := (config.identity, r.clients.length) :: r.held }
  | refused {config : Config} {e : Error} (missing : r.find? config.identity = none)
      (connected : Client.connect config = .error e)
    : Step r (.refused config e) r
  | reset (config : Config)
    : Step r (.reset config (r.held.lookup config.identity).isSome)
        { r with held := r.held.filter (·.1 ≠ config.identity) }

theorem step_call (r : Registry) (c : Call) : Step r (r.call c).1 (r.call c).2 := by
  cases c with
  | reset config => exact .reset config
  | lookup config =>
    cases looked : r.lookup config with
    | error e =>
      obtain ⟨missing, refused⟩ := lookup_eq_error.1 looked
      simp only [call, looked]
      exact .refused missing refused
    | ok both =>
      obtain ⟨⟨number, client⟩, later⟩ := both
      simp only [call, looked]
      rcases lookup_eq_ok.1 looked with ⟨finds, rfl⟩ | ⟨missing, client, connected, same, rfl⟩
      · exact .known finds
      · obtain ⟨rfl, rfl⟩ := Prod.mk.inj same
        exact .made missing connected

-----------------------------------------------------------------------------------------
-- What a history says of the registry after it
-----------------------------------------------------------------------------------------

/-- A registry is as its history says. -/
structure Tracks (events : List Event) (r : Registry) : Prop where
  /-- No identity has two clients. -/
  distinct : (r.held.map (·.1)).Nodup
  /-- A client that is held was found for settings of its identity. -/
  origin
    : ∀ identity number, (identity, number) ∈ r.held →
        ∃ config client, .found config number client ∈ events ∧ config.identity = identity
  /-- A client that was found is there, as its settings connect. -/
  placed
    : ∀ config number client, .found config number client ∈ events →
        r.clients[number]? = some client ∧ Client.connect config = .ok client
  /-- A client was found for settings of one identity only. -/
  owned
    : ∀ a b number x y, .found a number x ∈ events → .found b number y ∈ events →
        a.identity = b.identity
  /-- A client is held from when it was found until its identity is reset. -/
  held
    : ∀ since config number client earlier,
        events = since ++ .found config number client :: earlier →
        ((config.identity, number) ∈ r.held ↔ ∀ e ∈ since, ¬ e.Releases config.identity)

namespace Tracks

variable {events : List Event} {r : Registry}

theorem nil : Tracks [] {} where
  distinct := .nil
  origin _ _ held := (List.not_mem_nil held).elim
  placed _ _ _ found := (List.not_mem_nil found).elim
  owned _ _ _ _ _ found := (List.not_mem_nil found).elim
  held since config number client earlier place := by simp at place

/-- What is held is found. -/
theorem find?_eq_some (tracks : Tracks events r) {config : Config} {number : Nat}
    (held : (config.identity, number) ∈ r.held)
    : ∃ client, r.find? config.identity = some (number, client) := by
  obtain ⟨origin, client, found, -⟩ := tracks.origin _ _ held
  have holds := (Keyed.lookup_eq_some_iff tracks.distinct).2 held
  have placed := (tracks.placed _ _ _ found).1
  refine ⟨client, Option.bind_eq_some_iff.2 ⟨number, holds, ?_⟩⟩
  exact Option.bind_eq_some_iff.2 ⟨client, placed, rfl⟩

/-- A found client is held, and its settings connect to it. -/
theorem of_find? (tracks : Tracks events r) {config : Config} {number : Nat} {client : Client}
    (finds : r.find? config.identity = some (number, client))
    : (config.identity, number) ∈ r.held ∧ r.clients[number]? = some client
      ∧ Client.connect config = .ok client := by
  obtain ⟨held, placed⟩ := Registry.find?_eq_some finds
  obtain ⟨origin, first, found, same⟩ := tracks.origin _ _ held
  obtain ⟨there, connected⟩ := tracks.placed _ _ _ found
  obtain rfl := Option.some.inj (there.symm.trans placed)
  exact ⟨held, placed, (Client.connect_eq same).symm.trans connected⟩

/-- An identity without a client is not held. -/
theorem notMem_of_find? (tracks : Tracks events r) {config : Config}
    (missing : r.find? config.identity = none) (number : Nat)
    : (config.identity, number) ∉ r.held := by
  intro held
  obtain ⟨client, finds⟩ := tracks.find?_eq_some held
  rw [missing] at finds
  cases finds

/-- The latest event of a history, or an earlier one. -/
theorem cons_eq_append_cons {event found : Event} {since earlier : List Event}
    (h : event :: events = since ++ found :: earlier)
    : since = [] ∧ event = found ∧ events = earlier
      ∨ ∃ later, since = event :: later ∧ events = later ++ found :: earlier := by
  rcases List.cons_eq_append_iff.1 h with ⟨rfl, same⟩ | ⟨later, rfl, rest⟩
  · obtain ⟨rfl, rfl⟩ := List.cons.inj same
    exact .inl ⟨rfl, rfl, rfl⟩
  · exact .inr ⟨later, rfl, rest⟩

/-- An event that gives nothing up and finds nothing leaves all as it was. -/
theorem refused (tracks : Tracks events r) (config : Config) (e : Error)
    : Tracks (.refused config e :: events) r where
  distinct := tracks.distinct
  origin identity number held := by
    obtain ⟨config, client, found, same⟩ := tracks.origin _ _ held
    exact ⟨config, client, List.mem_cons_of_mem _ found, same⟩
  placed config number client found := tracks.placed _ _ _ (by simpa using found)
  owned a b number x y one two := tracks.owned a b number x y (by simpa using one) (by simpa using two)
  held since config number client earlier place := by
    rcases cons_eq_append_cons place with ⟨-, none, -⟩ | ⟨later, rfl, rest⟩
    · cases none
    · rw [tracks.held _ _ _ _ _ rest]
      simp

/-- A lookup that finds a client changes nothing else. -/
theorem known (tracks : Tracks events r) {config : Config} {number : Nat} {client : Client}
    (finds : r.find? config.identity = some (number, client))
    : Tracks (.found config number client :: events) r where
  distinct := tracks.distinct
  origin identity number held := by
    obtain ⟨config, client, found, same⟩ := tracks.origin _ _ held
    exact ⟨config, client, List.mem_cons_of_mem _ found, same⟩
  placed a n x found := by
    rcases List.mem_cons.1 found with now | before
    · cases now
      exact (tracks.of_find? finds).2
    · exact tracks.placed a n x before
  owned := by
    obtain ⟨origin, first, known, same⟩ := tracks.origin _ _ (tracks.of_find? finds).1
    have mine (b : Config) (y : Client) (found : .found b number y ∈ events)
        : b.identity = config.identity :=
      (tracks.owned _ _ _ _ _ found known).trans same
    intro a b n x y one two
    rcases List.mem_cons.1 one with now | before <;> rcases List.mem_cons.1 two with again | earlier
    · cases now
      cases again
      rfl
    · cases now
      exact (mine _ _ earlier).symm
    · cases again
      exact mine _ _ before
    · exact tracks.owned a b n x y before earlier
  held since a n x earlier place := by
    rcases cons_eq_append_cons place with ⟨rfl, same, -⟩ | ⟨later, rfl, rest⟩
    · cases same
      simpa using (tracks.of_find? finds).1
    · rw [tracks.held _ _ _ _ _ rest]
      simp

/-- A new client comes with a number that no client had before. -/
theorem made (tracks : Tracks events r) {config : Config} {client : Client}
    (missing : r.find? config.identity = none) (connected : Client.connect config = .ok client)
    : Tracks (.found config r.clients.length client :: events) {
        clients := r.clients ++ [client]
        held := (config.identity, r.clients.length) :: r.held } := by
  have early {a : Config} {n : Nat} {x : Client} (found : .found a n x ∈ events)
      : n < r.clients.length :=
    (List.getElem?_eq_some_iff.1 (tracks.placed a n x found).1).1
  have free (n : Nat) : (config.identity, n) ∉ r.held := tracks.notMem_of_find? missing n
  constructor
  · refine List.nodup_cons.2 ⟨fun member => ?_, tracks.distinct⟩
    obtain ⟨⟨identity, n⟩, held, rfl⟩ := List.mem_map.1 member
    exact free n held
  · intro identity n held
    rcases List.mem_cons.1 held with now | before
    · obtain ⟨rfl, rfl⟩ := Prod.mk.inj now
      exact ⟨config, client, by simp, rfl⟩
    · obtain ⟨origin, first, found, same⟩ := tracks.origin _ _ before
      exact ⟨origin, first, List.mem_cons_of_mem _ found, same⟩
  · intro a n x found
    rcases List.mem_cons.1 found with now | before
    · cases now
      exact ⟨by simp, connected⟩
    · obtain ⟨there, connects⟩ := tracks.placed a n x before
      exact ⟨(List.getElem?_append_left (early before)).trans there, connects⟩
  · intro a b n x y one two
    rcases List.mem_cons.1 one with now | before <;> rcases List.mem_cons.1 two with again | earlier
    · cases now
      cases again
      rfl
    · cases now
      exact absurd (early earlier) (Nat.lt_irrefl _)
    · cases again
      exact absurd (early before) (Nat.lt_irrefl _)
    · exact tracks.owned a b n x y before earlier
  · intro since a n x earlier place
    rcases cons_eq_append_cons place with ⟨rfl, same, -⟩ | ⟨later, rfl, rest⟩
    · cases same
      simp
    · have found : .found a n x ∈ events := by simp [rest]
      have other : n ≠ r.clients.length := Nat.ne_of_lt (early found)
      rw [List.forall_mem_cons, ← tracks.held _ _ _ _ _ rest]
      simp [other]

/-- A reset gives up the client of its identity, if there is one, and no other. -/
theorem reset (tracks : Tracks events r) (config : Config)
    : Tracks (.reset config (r.held.lookup config.identity).isSome :: events)
        { r with held := r.held.filter (·.1 ≠ config.identity) } where
  distinct := tracks.distinct.sublist (List.filter_sublist.map _)
  origin identity number held := by
    obtain ⟨origin, client, found, same⟩ := tracks.origin _ _ (List.mem_filter.1 held).1
    exact ⟨origin, client, List.mem_cons_of_mem _ found, same⟩
  placed a n x found := tracks.placed a n x (by simpa using found)
  owned a b n x y one two := tracks.owned a b n x y (by simpa using one) (by simpa using two)
  held since a n x earlier place := by
    rcases cons_eq_append_cons place with ⟨-, none, -⟩ | ⟨later, rfl, rest⟩
    · cases none
    · rw [List.mem_filter, tracks.held _ _ _ _ _ rest, List.forall_mem_cons, and_comm]
      refine and_congr_left fun kept => ?_
      have held := (tracks.held _ _ _ _ _ rest).2 kept
      have holds := (Keyed.lookup_eq_some_iff tracks.distinct).2 held
      by_cases same : config.identity = a.identity
      · simp [same, holds]
      · simp [same, Ne.symm same]

theorem step (tracks : Tracks events r) {event : Event} {later : Registry}
    (stepped : Step r event later)
    : Tracks (event :: events) later := by
  cases stepped with
  | known finds => exact tracks.known finds
  | made missing connected => exact tracks.made missing connected
  | @refused config e => exact tracks.refused config e
  | reset config => exact tracks.reset config

/-- An identity is held just if the registry has a client for it. -/
theorem holds_iff (tracks : Tracks events r) {identity : Identity}
    : Holds events identity ↔ identity ∈ r.held.map (·.1) := by
  constructor
  · rintro ⟨since, config, number, client, earlier, place, rfl, kept⟩
    exact List.mem_map.2 ⟨_, (tracks.held _ _ _ _ _ place).2 kept, rfl⟩
  · intro member
    obtain ⟨⟨i, number⟩, held, rfl⟩ := List.mem_map.1 member
    obtain ⟨config, client, found, rfl⟩ := tracks.origin _ _ held
    obtain ⟨since, earlier, place⟩ := List.append_of_mem found
    exact ⟨since, config, number, client, earlier, place, rfl, (tracks.held _ _ _ _ _ place).1 held⟩

/-- The client of a lookup is that of an earlier one just if the identity is the same and was not given
up between.
-/
theorem shares (tracks : Tracks events r) {a b : Config} {m n : Nat} {x y : Client}
    {later : Registry} (stepped : Step r (.found b m y) later) {between before : List Event}
    (place : events = between ++ .found a n x :: before)
    : m = n ↔ a.Agrees b ∧ ∀ e ∈ between, ¬ e.Releases a.identity := by
  have found : .found a n x ∈ events := by simp [place]
  have kept := tracks.held _ _ _ _ _ place
  rw [Config.agrees_iff, ← kept]
  cases stepped with
  | known finds =>
    have held := (tracks.of_find? finds).1
    constructor
    · rintro rfl
      obtain ⟨origin, first, known, same⟩ := tracks.origin _ _ held
      have owner := (tracks.owned _ _ _ _ _ found known).trans same
      exact ⟨owner, owner ▸ held⟩
    · rintro ⟨same, other⟩
      rw [same, ← Keyed.lookup_eq_some_iff tracks.distinct] at other
      rw [← Keyed.lookup_eq_some_iff tracks.distinct] at held
      exact Option.some.inj (held.symm.trans other)
  | made missing connected =>
    have early := (List.getElem?_eq_some_iff.1 (tracks.placed a n x found).1).1
    refine iff_of_false (Nat.ne_of_gt early) ?_
    rintro ⟨same, other⟩
    exact tracks.notMem_of_find? missing n (same ▸ other)

end Tracks

/-- A history is tracked by the registry after it, by induction on the calls. -/
theorem tracks_history (calls : List Call) : Tracks (history calls).1 (history calls).2 := by
  induction calls with
  | nil => exact .nil
  | cons latest earlier ih => exact ih.step (step_call _ latest)

-----------------------------------------------------------------------------------------
-- What callers can rely on
-----------------------------------------------------------------------------------------

/-- What a registry owes its callers, told from the history of their calls. -/
structure Keeps (events : List Event) (r : Registry) : Prop where
  /-- Two lookups give the same client just if their settings agree and no reset between them gave it up.
  -/
  shared
    : ∀ after b m y between a n x before,
        events = after ++ .found b m y :: (between ++ .found a n x :: before) →
        (m = n ↔ a.Agrees b ∧ ∀ e ∈ between, ¬ e.Releases a.identity)
  /-- The client of a lookup is what its own settings connect to. -/
  connected
    : ∀ config number client, .found config number client ∈ events →
        Client.connect config = .ok client
  /-- A lookup fails just if its identity is not held and its settings do not connect. -/
  refused
    : ∀ config e, r.lookup config = .error e ↔
        ¬ Holds events config.identity ∧ Client.connect config = .error e
  /-- A lookup that fails changes nothing. -/
  unchanged : ∀ config e, r.lookup config = .error e → (r.call (.lookup config)).2 = r
  reset : ∀ config, (r.reset config).1 = true ↔ Holds events config.identity
  /-- As many clients are held as there are identities held. -/
  size
    : ∃ identities : List Identity, identities.Nodup
        ∧ (∀ identity, identity ∈ identities ↔ Holds events identity)
        ∧ r.size = identities.length

/-- Two lookups of a history share a client as they should, by induction on the calls. -/
theorem shared_history (calls : List Call) {after between before : List Event} {a b : Config}
    {m n : Nat} {x y : Client}
    (place : (history calls).1 = after ++ .found b m y :: (between ++ .found a n x :: before))
    : m = n ↔ a.Agrees b ∧ ∀ e ∈ between, ¬ e.Releases a.identity := by
  induction calls generalizing after with
  | nil => simp [history] at place
  | cons latest earlier ih =>
    have stepped := step_call (history earlier).2 latest
    change ((history earlier).2.call latest).1 :: (history earlier).1 = _ at place
    rcases Tracks.cons_eq_append_cons place with ⟨-, event, rest⟩ | ⟨later, -, rest⟩
    · rw [event] at stepped
      exact (tracks_history earlier).shares stepped rest
    · exact ih rest

/-- Whatever is looked up and reset on a new registry, with any settings, two lookups give the same
client just if their settings agree on all that decides the client and it was not given up between
them; every client is what its lookup's own settings connect to; a lookup that fails changes
nothing; a reset says whether there was a client to give up; and the size is the number of
identities held.
-/
theorem keeps_history (calls : List Call) : Keeps (history calls).1 (history calls).2 where
  shared after b m y between a n x before place := shared_history calls place
  connected config number client found := ((tracks_history calls).placed _ _ _ found).2
  refused config e := by
    have tracks := tracks_history calls
    rw [lookup_eq_error, tracks.holds_iff]
    refine and_congr_left fun _ => ⟨fun missing member => ?_, fun absent => ?_⟩
    · obtain ⟨⟨identity, number⟩, held, rfl⟩ := List.mem_map.1 member
      exact tracks.notMem_of_find? missing number held
    · rw [Option.eq_none_iff_forall_ne_some]
      intro found finds
      exact absent (List.mem_map.2 ⟨_, (tracks.of_find? finds).1, rfl⟩)
  unchanged config e failed := by simp only [call, failed]
  reset config := by
    rw [(tracks_history calls).holds_iff, reset, Option.isSome_iff_exists]
    simp only [Keyed.lookup_eq_some_iff (tracks_history calls).distinct, List.mem_map, Prod.exists,
      exists_and_right, exists_eq_right]
  size := by
    have tracks := tracks_history calls
    exact ⟨_, tracks.distinct, fun identity => tracks.holds_iff.symm, (List.length_map _).symm⟩

end Registry

end ColumnStore
