import ServerConnections.Domain.Name
import ServerConnections.Url.Path

/-!
# Authorities

Between the slashes behind the scheme and the path of a URL stands its authority:
a user, if an at sign follows, a host, and the number of a socket, if a colon stands
before it. The user is of no further use here. Where the authority ends depends on
the scheme: a backslash counts as a slash in web addresses.

The host is a name or an IP address. The hosts of web addresses are domain names,
so a name that looks like a number is an address, and each host has one written
form. Other schemes may use any name without the characters that end a host; it is
kept as it is.
-/

namespace ServerConnections.Url

/-! ### Hosts -/

/-- A host. -/
inductive Host where
  | name (text : List Char)
  | ipv4 (address : Nat)
  | ipv6 (groups : List Nat)
deriving DecidableEq, Repr

namespace Host

/-- The written form of a host. -/
def text : Host → List Char
  | name text => text
  | ipv4 address => Ipv4.text address
  | ipv6 groups => '[' :: (Ipv6.text groups ++ [']'])

/-- The host between brackets, where `s` starts with one. -/
def bracketed? (s : List Char) : Option Host :=
  if s.getLast? = some ']' then (Ipv6.ofText? (s.drop 1).dropLast).map ipv6 else none

/-- The host of a domain name in ASCII form. -/
def ofAscii? (name : List Char) : Option Host :=
  if name.isEmpty then none
  else if Ipv4.isAddress name then (Ipv4.ofName? name).map ipv4
  else some (.name name)

/-- **The host of a web address.** -/
def ofDomain? (s : List Char) : Option Host :=
  if s.head? = some '[' then bracketed? s
  else ((decoded? s).bind Domain.toAscii?).bind ofAscii?

/-- The characters that no host may hold, of whatever scheme. -/
def isForbidden (c : Char) : Bool :=
  ['\x00', '\t', '\n', '\r', ' ', '#', '/', ':', '<', '>', '?', '@', '[', '\\', ']', '^',
    '|'].contains c

/-- The host of an address with a scheme of its own. -/
def ofOpaque? (s : List Char) : Option Host :=
  if s.head? = some '[' then bracketed? s
  else if s.any isForbidden then none
  else some (.name (encoded isControlOrBeyond s))

end Host

/-! ### Authorities -/

/-- What a scheme says about authorities: whether its addresses are web
addresses, which always have a host, and the socket that goes without saying. -/
structure AuthorityRules where
  isWeb : Bool
  defaultSocket : Option Nat

/-- A host, if there is one, and a socket, if it is not the default. -/
structure Authority where
  host : Option Host
  socket : Option Nat
deriving DecidableEq, Repr

/-- Whether a character ends an authority. -/
def endsAuthority (isWeb : Bool) (c : Char) : Bool :=
  c == '/' || c == '?' || c == '#' || (isWeb && c == '\\')

namespace Authority

/-- The text before the last at sign, if there is one, and the text behind it. -/
def splitUser (s : List Char) : Option (List Char) × List Char :=
  match s.reverse.span (· != '@') with
  | (behind, _ :: before) => (some before.reverse, behind.reverse)
  | (_, []) => (none, s)

/-- The text before the first colon outside brackets, and the text behind it, if
there is one. -/
def splitSocket (inBrackets : Bool) : List Char → List Char × Option (List Char)
  | [] => ([], none)
  | c :: rest =>
    if c = ':' ∧ inBrackets = false then ([], some rest)
    else
      let inside := if c = '[' then true else if c = ']' then false else inBrackets
      ((c :: (splitSocket inside rest).1), (splitSocket inside rest).2)

/-- The greatest socket. -/
def greatestSocket : Nat := 65535

/-- The socket that a text stands for, if the text is one: no socket is given by no
digits, and a backslash ends the digits. -/
def socket? (s : List Char) : Option (Option Nat) :=
  match s.takeWhile (· != '\\') with
  | [] => some none
  | digits => ((digitsValue? 10 0 digits).filter (· ≤ greatestSocket)).map some

/-- The host of a text, which is none if the text is empty. -/
def host? (isWeb : Bool) (s : List Char) : Option (Option Host) :=
  if isWeb then (Host.ofDomain? s).map some
  else if s.isEmpty then some none
  else (Host.ofOpaque? s).map some

/-- Whether a user says nothing. -/
def isVoidUser (user : Option (List Char)) : Bool :=
  user == none || user == some [] || user == some [':']

/-- **The authority of a text**, which more follows in the URL if `hasMore`. No
user and no socket may stand before and behind an empty host. -/
def ofText? (rules : AuthorityRules) (hasMore : Bool) (s : List Char) : Option Authority :=
  let (user, hostSocket) := splitUser s
  let (hostText, socketText) := splitSocket false hostSocket
  if hostText.isEmpty && (socketText.isSome || !isVoidUser user ||
      (user == some [] && hasMore)) then none
  else
    (host? rules.isWeb hostText).bind fun host =>
      (socket? (socketText.getD [])).map fun socket =>
        ⟨host, socket.filter fun p => rules.defaultSocket != some p⟩

end Authority

end ServerConnections.Url
