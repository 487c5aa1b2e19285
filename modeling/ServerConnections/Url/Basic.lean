import ServerConnections.Text.Blank
import ServerConnections.Url.Authority
import ServerConnections.Url.Path

/-!
# URLs

A `Url` is an absolute address. There are three kinds of scheme: those of the
web, which always have a host; files, which may have one; and all others, which
have one if two slashes follow the scheme.

Reading fails only for the scheme, the host or the socket. What is behind the
authority is kept as it was written in `tail`; every text is a valid one. Of web
addresses it gives the target of a request.
-/

namespace ServerConnections

/-- An absolute address. -/
structure Url where
  /-- The scheme, in small letters. -/
  scheme : String
  host : Option Url.Host
  /-- The number of the socket, if it is not the default of the scheme. -/
  socket : Option Nat
  /-- What stands behind the authority. -/
  tail : List Char
deriving DecidableEq, Repr

namespace Url

/-- The schemes of the web with the sockets that go without saying. -/
def webSockets : List (String × Nat) :=
  [("http", 80), ("https", 443), ("ws", 80), ("wss", 443), ("ftp", 21)]

/-- The scheme of files. -/
def fileScheme : String := "file"

/-- Whether a character is cut off at both ends of an address. -/
def isOuterBlank (c : Char) : Bool := c.toNat ≤ 0x20

/-- Whether a character is passed over inside an address. -/
def isInnerBlank (c : Char) : Bool := c == '\t' || c == '\n' || c == '\r'

/-- An address without blanks at its ends, tabs and line ends. -/
def withoutBlanks (s : List Char) : List Char :=
  (Text.dropWhileEnd isOuterBlank (s.dropWhile isOuterBlank)).filter (!isInnerBlank ·)

/-- Whether a character may stand in a scheme. -/
def isSchemeChar (c : Char) : Bool :=
  c.isAlphanum || c == '+' || c == '-' || c == '.'

/-- The scheme of an address, in small letters, and what is behind its colon. -/
def splitScheme? (s : List Char) : Option (String × List Char) :=
  match s.span (· != ':') with
  | (name, _ :: rest) =>
    if (name.head?.map Char.isAlpha).getD false && name.all isSchemeChar then
      some (String.ofList (name.map Char.toLower), rest)
    else none
  | (_, []) => none

/-- The address whose authority a text starts with. -/
def ofAuthority? (scheme : String) (s : List Char) : Option Url :=
  let socket? := webSockets.lookup scheme
  let (authority, tail) := s.span (!endsAuthority socket?.isSome ·)
  (Authority.ofText? ⟨socket?.isSome, socket?⟩ (!tail.isEmpty) authority).map fun a =>
    ⟨scheme, a.host, a.socket, tail⟩

/-- The host of a file, which is none if it is this machine. -/
def fileHost? (s : List Char) : Option (Option Host) :=
  if s.isEmpty || isDrive s then some none
  else (Host.ofDomain? s).map fun h =>
    if h.text = ['l', 'o', 'c', 'a', 'l', 'h', 'o', 's', 't'] then none else some h

/-- The address of a file. A path that starts with a drive is on this machine. -/
def ofFile? (s : List Char) : Option Url :=
  if s.length ≥ 2 ∧ (s.take 2).all isSlash then
    let (hostText, tail) := (s.drop 2).span fun c => !(isSlash c || endsPath c)
    (fileHost? hostText).map fun host =>
      let path := tail.takeWhile (!endsPath ·)
      ⟨fileScheme, if reachesDrive [] (rawSegments path) then none else host, none, tail⟩
  else some ⟨fileScheme, none, none, s⟩

/-- The address with a scheme that the library knows nothing about. -/
def ofOther? (scheme : String) (s : List Char) : Option Url :=
  match s with
  | '/' :: '/' :: rest => ofAuthority? scheme rest
  | _ => some ⟨scheme, none, none, s⟩

/-- The address of a scheme and what is behind its colon. In web addresses any
number of slashes may stand before the authority. -/
def ofScheme? (scheme : String) (rest : List Char) : Option Url :=
  if scheme = fileScheme then ofFile? rest
  else if (webSockets.lookup scheme).isSome then ofAuthority? scheme (rest.dropWhile isSlash)
  else ofOther? scheme rest

/-- **Reads an absolute address.** -/
def parse? (s : String) : Option Url :=
  (splitScheme? (withoutBlanks s.toList)).bind fun (scheme, rest) => ofScheme? scheme rest

/-! ### Requests -/

/-- The query of an address, behind its question mark. -/
def query? (u : Url) : Option (List Char) :=
  match (u.tail.takeWhile (· != '#')).dropWhile (· != '?') with
  | [] => none
  | _ :: query => some (encoded isEncodedInQuery query)

/-- What is asked for by a request to a web address: the path and the query. -/
def target (u : Url) : List Char :=
  pathText (segments (u.tail.takeWhile (!endsPath ·))) ++
    (u.query?.map ('?' :: ·)).getD []

/-- The text of the host. -/
def hostText? (u : Url) : Option String := u.host.map fun h => String.ofList h.text

end Url

end ServerConnections
