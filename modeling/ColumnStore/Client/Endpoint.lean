import ColumnStore.Http.Basic
import ColumnStore.Http.Status
import ColumnStore.Text.Invisible
import ColumnStore.Text.Trimming
import ColumnStore.Url.Percent

/-! An endpoint is a server with an identity on it. It forms the requests for statements and for
the ping, and judges the answers: what is refused becomes an error.
-/

namespace ColumnStore

/-- A server and who asks it. -/
structure Endpoint where
  base : Url
  username : String
  password : String
  readOnly : Bool
deriving DecidableEq, Repr

/-- The forms in which a result is asked for. -/
inductive Format where
  /-- One row on each line. -/
  | lines
  /-- One text with all rows. -/
  | whole
deriving DecidableEq, Repr

def Format.name : Format → String
  | lines => "JSONEachRow"
  | whole => "JSON"

/-- Whether a text may be the value of a header: no byte of it is a control but the tab. -/
def isHeaderValue (s : String) : Bool :=
  s.toList.all fun c => c = '\t' ∨ (0x20 ≤ c.toNat ∧ c.toNat ≠ 0x7F)

namespace Endpoint

/-- What the query of a statement's URL says. -/
def parameters (e : Endpoint) (database : String) (format : Format) : List (String × String) :=
  [("database", database), ("default_format", format.name)]
    ++ (if e.readOnly then [("readonly", "1")] else [])

/-- The request of a statement, unless the credentials cannot be sent. -/
def statementRequest (e : Endpoint) (sql database : String) (format : Format)
    : Except Error Http.Request :=
  if isHeaderValue e.username ∧ isHeaderValue e.password then
    .ok {
      method := .post
      url := e.base.withQuery (Url.formPairs (e.parameters database format))
      credentials := some ⟨e.username, e.password⟩
      body := sql }
  else .error (.transfer .badHeader)

/-- The request that asks whether the server is there. -/
def pingRequest (e : Endpoint) : Http.Request :=
  { method := .get, url := e.base.sibling "ping" }

/-- The answer to a statement, unless the server refused it. -/
def accepted (r : Http.Response) : Except Error Http.Response :=
  if r.isSuccess ∧ !r.isException then .ok r
  else
    let body := match r.text with
      | .ok text => String.ofList (Text.trim text)
      | .error _ => ""
    .error (.server r.status body)

/-- What speaks against a server that answered a ping. -/
def pingFault? (r : Http.Response) : Option String :=
  if !r.isSuccess then some ("status " ++ Http.statusText r.status)
  else match r.text with
    | .error fault => some fault.text
    | .ok text =>
      let answer := String.ofList (Text.trim text)
      if answer = "Ok." then none else some ("unexpected answer " ++ Text.visible answer)

/-- Whether what became of a ping shows a live server. -/
def pinged (request : Http.Request) (answer : Except TransferFault Http.Response)
    : Except Error Unit :=
  let fault? := match answer with
    | .error fault => some fault.text
    | .ok r => pingFault? r
  match fault? with
  | none => .ok ()
  | some reason => .error (.ping request.url.text reason)

/-- The answer to a statement, unless there is none or the server refused the statement. -/
def judged : Except TransferFault Http.Response → Except Error Http.Response
  | .error fault => .error (.transfer fault)
  | .ok r => accepted r

def send (e : Endpoint) (sql database : String) (format : Format)
    : ExceptT Error Http.Wire Http.Response := do
  let request ← e.statementRequest sql database format
  let answer ← Http.send request
  judged answer

def ping (e : Endpoint) : ExceptT Error Http.Wire Unit := do
  let answer ← Http.send e.pingRequest
  pinged e.pingRequest answer

end Endpoint

end ColumnStore
