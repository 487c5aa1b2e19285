import ServerConnections.Server.Classifier

/-!
# A server that follows a script

A server that gives the answers of a script, one for each request, the last one
again and again, and that records what it is asked for. It stands at one address
of this machine; nothing else answers a client that is connected to it.
-/

namespace ServerConnections

/-- A server with a script. -/
structure ScriptedServer where
  /-- The answers still to give. An absent one is an answer that never comes. -/
  script : List (Option Response)
  /-- What was asked for, in order. -/
  targets : List String

namespace ScriptedServer

/-- The scheme that the server understands. -/
def scheme : String := "http"

/-- The address that the server stands at. -/
def host : Url.Host := .ipv4 0x7F000001

/-- The socket that the server stands at. -/
def socket : Nat := 8080

/-- The answer of a server without a script. -/
def silence : Response := ⟨200, none, some ByteArray.empty⟩

/-- Whether a request gets to the server. -/
def isReachedBy (r : Request) : Bool :=
  r.url.scheme == scheme && r.url.host == some host && r.url.socket == some socket

/-- The server after an answer. -/
def advanced (script : List (Option Response)) : List (Option Response) :=
  match script with
  | _ :: next :: rest => next :: rest
  | _ => script

/-- The network of the server. -/
def transport : Transport ScriptedServer := fun request server =>
  if isReachedBy request then
    (server.script.head?.getD (some silence),
      ⟨advanced server.script, server.targets ++ [request.target]⟩)
  else (none, server)

end ScriptedServer

end ServerConnections
