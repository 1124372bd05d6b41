import ColumnStore.Http.Basic

/-! On a machine without a network no server is in reach, so no request is answered.
An address is known to be out of reach at once, while the name of a host has no address at all.
-/

namespace ColumnStore.Http

/-- Whether a host is an address, or a name that every machine knows. -/
def isAddressed (host : String) : Bool :=
  host = "localhost" ∨ host.toList.head? = some '['
    ∨ host.toList.all fun c => c.isDigit ∨ c = '.'

/-- What keeps a machine without a network from a host. -/
def offlineFault (host : String) : ConnectFault :=
  if isAddressed host then .unreachable else .unresolved

/-- The server as it is seen without a network. -/
def offline : Server := fun _ request =>
  .notConnected (offlineFault request.url.host)

/-- Whatever is asked without a network, no connection comes about. -/
theorem received_offline (past : List Request) (request : Request)
    : (offline past request).received request
      = .error (.notConnected request.urlText (offlineFault request.url.host)) :=
  rfl

end ColumnStore.Http
