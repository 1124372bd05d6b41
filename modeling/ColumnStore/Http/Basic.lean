import ColumnStore.Error
import ColumnStore.Text.Utf8
import ColumnStore.Url.Basic

/-! Requests go to a server one after another, and each is answered from what came before it.
A conversation keeps what was asked and what was answered, in order. Redirects are followed by the
HTTP client within one request, so they are no part of a conversation.
-/

namespace ColumnStore.Http

/-- The two methods of requests: one asks, the other sends a statement. -/
inductive Method where
  | get
  | post
deriving DecidableEq, Repr

/-- Who asks, as the server is told. -/
structure Credentials where
  user : String
  key : String
deriving DecidableEq, Repr

/-- What is sent to a server. -/
structure Request where
  method : Method
  url : Url
  credentials : Option Credentials := none
  body : String := ""
deriving DecidableEq, Repr

/-- An answer of a server. -/
structure Response where
  status : Nat
  /-- Whether the answer is marked as an exception of the store. -/
  isException : Bool := false
  body : List UInt8 := []
  /-- Whether the body came to its announced length. -/
  isComplete : Bool := true
deriving DecidableEq, Repr

/-- What becomes of a request, as the HTTP client hands it back: the answer of the last server that it
was redirected to, or how the exchange broke off.
-/
inductive Reply where
  | response (r : Response)
  | notConnected (fault : ConnectFault)
  /-- The connection was closed without an answer. -/
  | closed
deriving DecidableEq, Repr

/-- A server answers a request from the requests before it, oldest first. These are the requests that
connections issue. Those that follow a redirect are not among them, so what is said of further
requests is said of requests that are issued.
-/
abbrev Server := List Request → Request → Reply

/-- A request with what became of it. -/
structure Exchange where
  request : Request
  reply : Reply
deriving DecidableEq, Repr

/-- What is computed in conversation with a server, oldest exchange first. -/
abbrev Wire := ReaderT Server (StateM (List Exchange))

def exchange (request : Request) : Wire Reply := fun server log =>
  let reply := server (log.map (·.request)) request
  (reply, log ++ [⟨request, reply⟩])

def Response.isSuccess (r : Response) : Bool :=
  200 ≤ r.status ∧ r.status ≤ 299

/-- The text of a body that came in full. -/
def Response.text (r : Response) : Except TransferFault (List Char) :=
  if r.isComplete then .ok (Text.Utf8.decodeUnmarked r.body) else .error .bodyCutShort

/-- The URL of a request as failures name it. -/
def Request.urlText (r : Request) : String :=
  r.url.withoutIdentity.text

/-- The answer to a request, or how the exchange broke off. -/
def Reply.received (request : Request) : Reply → Except TransferFault Response
  | response r => .ok r
  | notConnected fault => .error (.notConnected request.urlText fault)
  | closed => .error (.noAnswer request.urlText)

/-- The answer to a request. One whose URL cannot be named is not sent. -/
def send (request : Request) : Wire (Except TransferFault Response) := do
  if request.url.withoutIdentity.canBeRequested then
    let reply ← exchange request
    return reply.received request
  else return .error (.badTarget request.urlText)

end ColumnStore.Http
