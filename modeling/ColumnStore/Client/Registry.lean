import ColumnStore.Client.Batch
import ColumnStore.Client.Streaming
import ColumnStore.Config.Basic

/-! A registry holds at most one client for each identity on a server.
A client that was reset is forgotten by the registry, and the next lookup makes a new one.
-/

namespace ColumnStore

/-- A client of either mode. -/
inductive Client where
  | streaming (c : StreamingClient)
  | batch (c : BatchClient)

/-- The settings that decide which client a connection gets. -/
structure Identity where
  mode : Mode
  host : String
  port : UInt16
  username : String
  password : String
  database : String
  useTls : Bool
  readOnly : Bool
deriving DecidableEq, Repr

def Config.identity (c : Config) : Identity where
  mode := c.mode
  host := c.host
  port := c.port
  username := c.username
  password := c.password
  database := c.database
  useTls := c.useTls
  readOnly := c.readOnly

namespace Client

/-- A new client for some settings, unless they name no server. -/
def connect (config : Config) : Except Error Client := do
  let endpoint : Endpoint :=
    ⟨← config.baseUrl, config.username, config.password, config.readOnly⟩
  match config.mode with
  | .streaming => return .streaming { endpoint, database := config.database }
  | .batch => return .batch { endpoint, database := config.database }

/-- A client cannot be had from text; it only comes from a lookup. -/
def ofText (_ : String) : Except Error Client :=
  .error .invalidLifecycle

def mode : Client → Mode
  | streaming _ => .streaming
  | batch _ => .batch

def endpoint : Client → Endpoint
  | streaming c => c.endpoint
  | batch c => c.endpoint

def database : Client → String
  | streaming c => c.database
  | batch c => c.database

end Client

/-- The clients that connections share. -/
structure Registry where
  /-- All clients that were ever made; the number of a client is its place. -/
  clients : List Client := []
  /-- The client of each identity that has one. -/
  held : List (Identity × Nat) := []

namespace Registry

def size (r : Registry) : Nat :=
  r.held.length

/-- The client that an identity has, with its number. -/
def find? (r : Registry) (identity : Identity) : Option (Nat × Client) := do
  let number ← r.held.lookup identity
  return (number, ← r.clients[number]?)

/-- The client for some settings, which is made if their identity has none. -/
def lookup (r : Registry) (config : Config) : Except Error ((Nat × Client) × Registry) :=
  match r.find? config.identity with
  | some found => .ok (found, r)
  | none => do
    let client ← Client.connect config
    let number := r.clients.length
    return ((number, client), {
      clients := r.clients ++ [client]
      held := (config.identity, number) :: r.held })

def put (r : Registry) (number : Nat) (client : Client) : Registry :=
  { r with clients := r.clients.set number client }

/-- Forgets the client of some settings, and whether there was one. -/
def reset (r : Registry) (config : Config) : Bool × Registry :=
  ((r.held.lookup config.identity).isSome,
    { r with held := r.held.filter (·.1 ≠ config.identity) })

end Registry

end ColumnStore
