import ServerConnections.Connection.Lists

/-!
# Settings documents

The connections are one section of a larger document that other programs share.
Reading keeps whatever else the document holds, and writing puts it back: the
known member first, then the others in the order of their keys. This is so on
two levels, the document and its section for connected mode.

The main definitions are `Settings.form`, which says how a document is read, and
`Settings.toValue`, which says how it is written.
-/

namespace ServerConnections

/-- A settings document. -/
structure Settings where
  connections : ConnectionLists
  /-- What else the section for connected mode holds. -/
  modeOthers : Json.Members
  /-- What else the document holds. -/
  others : Json.Members
deriving Repr, Inhabited

namespace Settings

/-- The document that holds nothing. -/
def blank : Settings := ⟨.empty, [], []⟩

/-- Whether the document holds nothing. -/
def isBlank (s : Settings) : Bool :=
  s.connections == .empty && s.modeOthers.isEmpty && s.others.isEmpty

/-- The unified list of connections. -/
def servers (s : Settings) : List Connection := s.connections.servers

/-- The document with other connections. -/
def withConnections (s : Settings) (connections : ConnectionLists) : Settings :=
  { s with connections }

/-- The document with another unified list. -/
def withServers (s : Settings) (servers : List Connection) : Settings :=
  s.withConnections (s.connections.withServers servers)

/-- Whether any connection of the document has its token under a key. -/
def usesKey (s : Settings) (key : String) : Bool := s.connections.usesKey key

@[simp] theorem servers_withServers (s : Settings) (cs : List Connection) :
    (s.withServers cs).servers = cs := rfl

/-! ### Reading and writing -/

/-- The known member of the section for connected mode. -/
def modeRecord : Json.Record ConnectionLists ConnectionLists :=
  ⟨[.of "connections" ConnectionLists.form fun x _ => x], .empty, some⟩

/-- The known member of the document. -/
def record : Json.Record (ConnectionLists × Json.Members) (ConnectionLists × Json.Members) :=
  ⟨[.of "connectedMode" modeRecord.keeping fun x _ => x], (.empty, []), some⟩

/-- A document is given by an object on both levels. -/
def form : Json.Form Settings :=
  record.keeping.map fun ((connections, modeOthers), others) =>
    ⟨connections, modeOthers, others⟩

/-- Reads a text that holds one document. -/
def parse (text : String) : Except Json.Fault Settings := form.parse text

/-- The document as a JSON value. -/
def toValue (s : Settings) : Json.Value :=
  .object (("connectedMode",
    .object (("connections", s.connections.toValue) :: s.modeOthers)) :: s.others)

/-- The text that a document is saved as. -/
def savedText (s : Settings) : String := s.toValue.pretty

end Settings

end ServerConnections
