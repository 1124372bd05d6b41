import ColumnStore.Client.Endpoint
import ColumnStore.Row.Lines

/-! A streaming client takes the rows of a result as they come.
A failure on the way ends the rows; a query of all rows then fails.
-/

namespace ColumnStore

/-- A client that reads rows as they come. -/
structure StreamingClient where
  endpoint : Endpoint
  database : String
deriving DecidableEq, Repr

namespace StreamingClient

/-- The bytes of an answer as a stream; one that was cut short ends in a failure. -/
def chunks (r : Http.Response) : List (Except Error (List UInt8)) :=
  .ok r.body :: (if r.isComplete then [] else [.error (.transfer .bodyCutShort)])

/-- The rows of a statement, with what ended them early as the last item. -/
def stream (c : StreamingClient) (sql : String)
    : ExceptT Error Http.Wire (List (Except Error Row)) := do
  let response ← c.endpoint.send sql c.database .lines
  return Row.decode (chunks response)

def query (c : StreamingClient) (sql : String) : ExceptT Error Http.Wire (List Row) := do
  let items ← c.stream sql
  Row.collect items

end StreamingClient

end ColumnStore
