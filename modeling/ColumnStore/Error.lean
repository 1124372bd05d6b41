/-! What can go wrong, by cause: in compiling a statement, in reaching the server, in reading its
answer and in reading settings. Each cause has one text, and a failure of the transport also has
the chain of the failures beneath it. Of steps that may fail, the first failure is that of all.
-/

namespace ColumnStore

/-- A statement that the store has no form for. -/
inductive Unsupported where
  | updateWithJoins
  | updateWithLimit
  | deleteWithJoins
  | deleteWithLimit
deriving DecidableEq, Repr

def Unsupported.text : Unsupported → String
  | updateWithJoins => "update with joins"
  | updateWithLimit => "update with limit"
  | deleteWithJoins => "delete with joins"
  | deleteWithLimit => "delete with limit"

/-- Why a text is no URL. -/
inductive UrlFault where
  | emptyHost
  | invalidDomain
  | invalidIpv4
  | invalidIpv6
  | invalidPort
deriving DecidableEq, Repr

def UrlFault.text : UrlFault → String
  | emptyHost => "empty host"
  | invalidDomain => "invalid international domain name"
  | invalidIpv4 => "invalid IPv4 address"
  | invalidIpv6 => "invalid IPv6 address"
  | invalidPort => "invalid port number"

/-- Why no connection to a server came about. -/
inductive ConnectFault where
  | unreachable
  | refused
  /-- The name of the host has no address. -/
  | unresolved
deriving DecidableEq, Repr

/-- The step that failed, then what the system says of it. -/
def ConnectFault.causes : ConnectFault → List String
  | unreachable => ["tcp connect error", "Network is unreachable (os error 101)"]
  | refused => ["tcp connect error", "Connection refused (os error 111)"]
  | unresolved =>
    ["dns error",
      "failed to lookup address information: Temporary failure in name resolution"]

/-- How the exchange of one request and its answer broke off. -/
inductive TransferFault where
  /-- A header value holds a byte that no header may hold; nothing was sent. -/
  | badHeader
  /-- No request can name the URL; nothing was sent. -/
  | badTarget (url : String)
  | notConnected (url : String) (fault : ConnectFault)
  /-- The server closed the connection without an answer. -/
  | noAnswer (url : String)
  /-- The body ended before its announced length. -/
  | bodyCutShort
deriving DecidableEq, Repr

namespace TransferFault

def text : TransferFault → String
  | badHeader => "builder error"
  | badTarget url => "builder error for url (" ++ url ++ ")"
  | notConnected url _ => "error sending request for url (" ++ url ++ ")"
  | noAnswer url => "error sending request for url (" ++ url ++ ")"
  | bodyCutShort => "error decoding response body"

def causes : TransferFault → List String
  | badHeader => ["failed to parse header value"]
  | badTarget _ => ["Parsed Url is not a valid Uri"]
  | notConnected _ fault => "client error (Connect)" :: fault.causes
  | noAnswer _ =>
    ["client error (SendRequest)", "connection closed before message completed"]
  | bodyCutShort =>
    ["request or response body error", "error reading a body from connection",
      "end of file before message length reached"]

end TransferFault

/-- Why settings could not be had. -/
inductive ConfigFault where
  /-- The text is no settings text, or a setting has the wrong form. -/
  | unreadable (report : String)
  /-- No saved connection has the name; the name is given in quotes. -/
  | noSavedConnection (quotedName : String)
deriving DecidableEq, Repr

def ConfigFault.text : ConfigFault → String
  | unreadable report => report
  | noSavedConnection quotedName => "no saved connection named " ++ quotedName

/-- What an operation reports instead of its result. -/
inductive Error where
  /-- The statement has no form in the store and is never sent. -/
  | unsupported (what : Unsupported)
  /-- A client was to be rebuilt from text; clients only come from a registry. -/
  | invalidLifecycle
  /-- A queued statement was discarded with its client. -/
  | notExecuted (sql : String)
  /-- A raw text has another number of placeholders than it has values. -/
  | placeholderMismatch (sql : String) (placeholders bindings : Nat)
  | transfer (fault : TransferFault)
  | ping (url reason : String)
  /-- The server refused a statement. -/
  | server (status : Nat) (body : String)
  | malformedResponse (reason : String)
  | url (fault : UrlFault)
  | config (fault : ConfigFault)
  /-- A file could not be read as text. -/
  | file (reason : String)
deriving DecidableEq, Repr

namespace Error

def message : Error → String
  | .unsupported what => what.text ++ " not supported in ClickHouse"
  | .invalidLifecycle =>
    "cannot deserialize a transport client; clients only exist on a live connection"
  | .notExecuted sql => "statement was discarded before it was sent: " ++ sql
  | .placeholderMismatch sql placeholders bindings =>
    "raw fragment has " ++ toString placeholders ++ " placeholder(s) but "
      ++ toString bindings ++ " binding(s): " ++ sql
  | .transfer fault => "http request failed: " ++ fault.text
  | .ping target reason => "ping failed for " ++ target ++ ": " ++ reason
  | .server status body => "server returned " ++ toString status ++ ": " ++ body
  | .malformedResponse reason => "malformed response: " ++ reason
  | .url fault => "invalid url: " ++ fault.text
  | .config fault => "config error: " ++ fault.text
  | .file reason => reason

def causes : Error → List String
  | .transfer fault => fault.text :: fault.causes
  | .url fault => [fault.text]
  | _ => []

end Error

-----------------------------------------------------------------------------------------
-- Steps that may fail
-----------------------------------------------------------------------------------------

variable {ε α β : Type}

/-- A step after another succeeds with what both give. -/
theorem bind_eq_ok {x : Except ε α} {f : α → Except ε β} {b : β}
    : x >>= f = .ok b ↔ ∃ a, x = .ok a ∧ f a = .ok b := by
  cases x with
  | error e => exact ⟨nofun, fun ⟨_, given, _⟩ => nomatch given⟩
  | ok a => exact ⟨fun goes => ⟨a, rfl, goes⟩, fun ⟨_, given, goes⟩ => Except.ok.inj given ▸ goes⟩

/-- Success without a further step. -/
theorem pure_eq_ok {a b : α}
    : (pure a : Except ε α) = .ok b ↔ a = b :=
  ⟨Except.ok.inj, congrArg Except.ok⟩

end ColumnStore
