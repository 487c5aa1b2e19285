import ServerConnections.Text.Lossy
import ServerConnections.Url.Reference

/-!
# Requests to servers

A client asks for a web address and is answered, or is not. An answer may send it
elsewhere; it follows such answers a limited number of times. What carries a
request is a parameter, a `Transport`, so that a network, a script, or nothing at
all may be behind it.
-/

namespace ServerConnections

/-- What is asked for, and where. -/
structure Request where
  url : Url
  reference : Url.Reference
deriving DecidableEq, Repr

/-- An answer of a server. -/
structure Response where
  status : Nat
  location : Option String
  /-- The body, unless it breaks off. -/
  body : Option ByteArray

/-- What carries a request to a server: it answers nothing if the server cannot
be reached, or does not answer. -/
abbrev Transport (σ : Type) := Request → StateM σ (Option Response)

namespace Request

/-- The schemes that a client can ask for. -/
def schemes : List String := ["http", "https"]

/-- The request for an address, if a client can ask for it. -/
def ofUrl? (u : Url) : Option Request :=
  if schemes.contains u.scheme then some ⟨u, .ofUrl u⟩ else none

/-- The request for an address given by its text. -/
def ofText? (s : String) : Option Request := (Url.parse? s).bind ofUrl?

/-- What is asked for. -/
def target (r : Request) : String := String.ofList r.reference.target

/-- The request for the place that a reference names, seen from another. -/
def sentTo? (r : Request) (location : String) : Option Request :=
  if r.reference.isValid then
    (Url.Reference.ofText? location.toList).bind fun reference =>
      let there := r.reference.resolved reference
      if there.authority.isNone then none
      else (Url.parse? (String.ofList there.text)).bind fun u =>
        if schemes.contains u.scheme then some ⟨u, there⟩ else none
  else none

end Request

namespace Response

/-- The statuses that send a client elsewhere. -/
def redirections : List Nat := [301, 302, 303, 307, 308]

/-- Whether an answer says that all is well. -/
def isSuccess (r : Response) : Bool := 200 ≤ r.status && r.status < 300

/-- The status of answers that are well but have no body. -/
def noContent : Nat := 204

/-- The text of the body, unless it breaks off. -/
def text? (r : Response) : Option String :=
  if r.status = noContent then some "" else r.body.map Text.ofBytesLossy

/-- Where an answer to a request sends the client. -/
def next? (r : Response) (asked : Request) : Option Request :=
  if redirections.contains r.status then r.location.bind asked.sentTo? else none

end Response

namespace Transport

variable {σ : Type}

/-- How often a client lets itself be sent elsewhere. -/
def patience : Nat := 10

/-- The answer that a request leads to, `left` being how often the client may
still be sent elsewhere. -/
def follow (transport : Transport σ) : (left : Nat) → Request → StateM σ (Option Response)
  | 0, asked => do
    return (← transport asked).filter fun answer => (answer.next? asked).isNone
  | left + 1, asked => do
    match ← transport asked with
    | none => return none
    | some answer =>
      match answer.next? asked with
      | none => return some answer
      | some next => follow transport left next

/-- **The answer that a request leads to in the end.** -/
def fetch (transport : Transport σ) (asked : Request) : StateM σ (Option Response) :=
  transport.follow patience asked

end Transport

end ServerConnections
