import ServerConnections.Connection.Basic

/-!
# The lists of connections

A settings document holds three lists of connections. Two are from before there
was one list for all: migration empties them. The unified list has connections
of both kinds, in the order in which they were added.

A connection is found by kind and id. Where several entries match, as in a
document edited by hand, the first one is meant.
-/

namespace ServerConnections

/-- The connections of a settings document. -/
structure ConnectionLists where
  /-- The former list of self-hosted servers. -/
  legacySelfHosted : List Connection
  /-- The former list of cloud connections. -/
  legacyCloud : List Connection
  /-- The unified list. -/
  servers : List Connection
deriving DecidableEq, Repr, Inhabited

namespace ConnectionLists

/-- No connections. -/
def empty : ConnectionLists := ⟨[], [], []⟩

/-- The index in the unified list of the connection of a kind and an id. -/
def position? (lists : ConnectionLists) (kind : ServerKind) (id : String) : Option Nat :=
  lists.servers.findIdx? (Connection.isNamed kind id)

/-- The connection of a kind and an id in the unified list. -/
def find? (lists : ConnectionLists) (kind : ServerKind) (id : String) : Option Connection :=
  lists.servers.find? (Connection.isNamed kind id)

/-- The index of the connection of an id, and of a kind if one is given. -/
def positionAny? (lists : ConnectionLists) (kind : Option ServerKind) (id : String) :
    Option Nat :=
  match kind with
  | some kind => lists.position? kind id
  | none => lists.servers.findIdx? (Connection.hasId · id)

/-- The connections of a kind in the unified list. -/
def ofKind (lists : ConnectionLists) (kind : ServerKind) : List Connection :=
  lists.servers.filter fun c => c.kind == kind

/-- Whether there are connections in the former lists. -/
def hasLegacy (lists : ConnectionLists) : Bool :=
  !lists.legacySelfHosted.isEmpty || !lists.legacyCloud.isEmpty

/-- All connections: the former lists first. -/
def all (lists : ConnectionLists) : List Connection :=
  lists.legacySelfHosted ++ lists.legacyCloud ++ lists.servers

/-- Whether any connection has its token under a key. -/
def usesKey (lists : ConnectionLists) (key : String) : Bool :=
  lists.all.any fun c => c.storageKey == some key

/-- The lists with another unified list. -/
def withServers (lists : ConnectionLists) (servers : List Connection) : ConnectionLists :=
  { lists with servers }

/-! ### In documents -/

/-- The fields in the order in which an array gives them. -/
def fields : List (Json.Field ConnectionLists) :=
  [.of "sonarqube" (.listOf Connection.form) fun xs l => { l with legacySelfHosted := xs },
    .of "sonarcloud" (.listOf Connection.form) fun xs l => { l with legacyCloud := xs },
    .of "servers" (.listOf Connection.form) fun xs l => { l with servers := xs }]

/-- Every list has a default. -/
def record : Json.Record ConnectionLists ConnectionLists := ⟨fields, empty, some⟩

/-- The lists are given by their fields. -/
def form : Json.Form ConnectionLists := record.form

/-- A list of connections as a JSON value. -/
def listValue (cs : List Connection) : Json.Value :=
  .array (cs.map Connection.toValue)

/-- A member with a list, if it is not empty. -/
def legacyMember (name : String) (cs : List Connection) : Json.Members :=
  if cs.isEmpty then [] else [(name, listValue cs)]

/-- The lists as a JSON value. Former lists are written only if they are not
empty. -/
def toValue (lists : ConnectionLists) : Json.Value :=
  .object (legacyMember "sonarqube" lists.legacySelfHosted ++
    legacyMember "sonarcloud" lists.legacyCloud ++ [("servers", listValue lists.servers)])

end ConnectionLists

end ServerConnections
