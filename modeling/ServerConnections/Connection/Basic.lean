import ServerConnections.Json.Form
import ServerConnections.Json.Print
import ServerConnections.Text.Blank
import ServerConnections.Text.Visible

/-!
# Connections

A `Connection` is one configured server: how it is named, where it is, which
organization it belongs to, and whether it is the cloud service, once that is
known. The token field is filled only in settings from before tokens had a store
of their own, and on the way into and out of the registry.

A connection leads to a server that its owner hosts or to the cloud service.
Connection ids are unique per kind: one id may name a connection of each. Addresses
are compared, stored and used as keys in a clean form: without blanks around them
and without slashes at the end.

## Main definitions

* `ServerKind` — who hosts a server
* `Address.clean` — the clean form of an address
* `Connection.storageKey` — the key of the connection's token in the secret store
* `Connection.defaultId` — the id of a connection saved without one
* `Connection.form`, `Connection.toValue` — the form in documents
* `Connection.describe` — the form in logs, which never shows a token
-/

namespace ServerConnections

/-! ### Kinds of server -/

/-- Who hosts a server. -/
inductive ServerKind where
  | selfHosted
  | cloud
deriving DecidableEq, Repr

namespace ServerKind

/-- The kind that a cloud flag stands for. -/
def ofFlag (isCloud : Bool) : ServerKind :=
  if isCloud then .cloud else .selfHosted

/-- Whether the kind is the cloud service. -/
def isCloud (kind : ServerKind) : Bool :=
  kind == .cloud

/-- The name of the kind, in documents and messages. -/
def name : ServerKind → String
  | selfHosted => "self-hosted"
  | cloud => "cloud"

/-- The kinds by name. -/
def variants : List (String × ServerKind) :=
  [(selfHosted.name, selfHosted), (cloud.name, cloud)]

/-- A kind is given by its name. -/
def form : Json.Form ServerKind := .choice variants

/-- The kind of a name. -/
def ofName? (s : String) : Option ServerKind :=
  variants.lookup s

/-- The kind as a JSON value. -/
def toValue (kind : ServerKind) : Json.Value :=
  .text kind.name

@[simp] theorem isCloud_ofFlag (b : Bool) : (ofFlag b).isCloud = b := by
  cases b <;> rfl

@[simp] theorem ofName?_name (kind : ServerKind) : ofName? kind.name = some kind := by
  cases kind <;> decide

end ServerKind

/-! ### Clean addresses -/

namespace Address

/-- Whether a character is a slash. -/
def isSlash (c : Char) : Bool := c == '/'

/-- Drops every slash at the end. -/
def withoutTrailingSlashes (url : String) : String :=
  String.ofList (Text.dropWhileEnd isSlash url.toList)

/-- The clean form of an address: blanks at both ends are dropped, then slashes
at the end. -/
def clean (url : String) : String :=
  withoutTrailingSlashes (Text.trimBlank url)

@[simp] theorem toList_withoutTrailingSlashes (url : String) :
    (withoutTrailingSlashes url).toList = Text.dropWhileEnd isSlash url.toList := by
  simp [withoutTrailingSlashes]

@[simp] theorem toList_clean (url : String) :
    (clean url).toList = Text.dropWhileEnd isSlash (Text.trimChars url.toList) := by
  simp [clean]

end Address

/-! ### Configured servers -/

/-- The id of a connection that has neither an organization nor an address. -/
def defaultConnectionId : String := "<default>"

/-- The address of cloud connections that were saved with an organization only. -/
def defaultCloudUrl : String := "https://app.codescan.io"

/-- One configured server. -/
structure Connection where
  id : Option String
  serverUrl : Option String
  organization : Option String
  /-- Whether the server is the cloud service; absent until it was classified. -/
  cloudFlag : Option Bool
  muted : Bool
  token : Option String
deriving DecidableEq, Repr, Inhabited

/-- A text that is present and not empty. -/
def nonEmpty? (s : Option String) : Option String :=
  s.filter fun t => !t.isEmpty

namespace Connection

/-- A connection of which nothing is known. -/
def blank : Connection := ⟨none, none, none, none, false, none⟩

/-- A connection to a server of one's own. -/
def selfHosted (serverUrl : String) : Connection :=
  { blank with serverUrl := some serverUrl }

/-- A connection to an organization of the cloud service. -/
def cloud (serverUrl organization : String) : Connection :=
  { blank with serverUrl := some serverUrl, organization := some organization }

/-- The connection under another id. -/
def withId (c : Connection) (id : String) : Connection := { c with id := some id }

/-- The connection with a token. -/
def withToken (c : Connection) (token : String) : Connection := { c with token := some token }

/-- The connection once it was classified. -/
def withCloudFlag (c : Connection) (isCloud : Bool) : Connection :=
  { c with cloudFlag := some isCloud }

/-- The connection with its notifications switched off or on. -/
def withMuted (c : Connection) (muted : Bool) : Connection := { c with muted }

/-- The connection without its token. -/
def withoutToken (c : Connection) : Connection := { c with token := none }

/-- Whether the connection leads to the cloud service. One that was not
classified counts as self-hosted. -/
def isCloud (c : Connection) : Bool := c.cloudFlag.getD false

/-- The kind of server. -/
def kind (c : Connection) : ServerKind := .ofFlag c.isCloud

/-- The id as a text, empty if there is none. -/
def idText (c : Connection) : String := c.id.getD ""

/-- Whether the connection has the id given. -/
def hasId (c : Connection) (id : String) : Bool := c.id == some id

/-- Whether the connection is the one of a kind and an id. -/
def isNamed (kind : ServerKind) (id : String) (c : Connection) : Bool :=
  c.kind == kind && c.hasId id

/-- Whether the connection carries a token that is not empty. -/
def hasPlainToken (c : Connection) : Bool := (nonEmpty? c.token).isSome

/-- **The key of the token in the secret store**: the organization of a cloud
connection, the address of any other. -/
def storageKey (c : Connection) : Option String :=
  nonEmpty? (if c.isCloud then c.organization else c.serverUrl)

/-- **The id of a connection saved without one**: its organization, else its
clean address, else a fixed name. -/
def defaultId (c : Connection) : String :=
  match nonEmpty? c.organization with
  | some org => org
  | none => (nonEmpty? (c.serverUrl.map Address.clean)).getD defaultConnectionId

/-! ### In documents -/

/-- The fields in the order in which an array gives them. -/
def fields : List (Json.Field Connection) :=
  [.of "connectionId" (.optional .text) fun x c => { c with id := x },
    .of "serverUrl" (.optional .text) fun x c => { c with serverUrl := x },
    .of "organizationKey" (.optional .text) fun x c => { c with organization := x },
    .of "isCloudConnection" (.optional .flag) fun x c => { c with cloudFlag := x },
    .of "disableNotifications" .flag fun x c => { c with muted := x },
    .of "token" (.optional .text) fun x c => { c with token := x }]

/-- Every field has a default. -/
def record : Json.Record Connection Connection := ⟨fields, blank, some⟩

/-- A connection is given by its fields. -/
def form : Json.Form Connection := record.form

/-- A member with a text, if the text is present. -/
def textMember (name : String) (s : Option String) : Json.Members :=
  s.toList.map fun t => (name, .text t)

/-- A member with a flag, if the flag is present. -/
def flagMember (name : String) (b : Option Bool) : Json.Members :=
  b.toList.map fun t => (name, .bool t)

/-- The members of a connection. What is absent is not written, and notifications
are mentioned only if they are switched off. -/
def toMembers (c : Connection) : Json.Members :=
  textMember "connectionId" c.id ++ textMember "serverUrl" c.serverUrl ++
    textMember "organizationKey" c.organization ++
    flagMember "isCloudConnection" c.cloudFlag ++
    flagMember "disableNotifications" (if c.muted then some true else none) ++
    textMember "token" c.token

/-- The connection as a JSON value. -/
def toValue (c : Connection) : Json.Value := .object c.toMembers

/-! ### In logs -/

/-- An optional text as it is shown. -/
def describeText (s : Option String) : String :=
  match s with
  | none => "None"
  | some t => "Some(" ++ Text.visible t ++ ")"

/-- A flag as it is shown. -/
def describeFlag (b : Bool) : String := if b then "true" else "false"

/-- An optional flag as it is shown. -/
def describeOptionalFlag (b : Option Bool) : String :=
  match b with
  | none => "None"
  | some t => "Some(" ++ describeFlag t ++ ")"

/-- **The connection as it is shown in logs.** Of the token only its presence is
shown. -/
def describe (c : Connection) : String :=
  "ConnectionProfile \x7b connection_id: " ++ describeText c.id ++
    ", server_url: " ++ describeText c.serverUrl ++
    ", organization_key: " ++ describeText c.organization ++
    ", is_cloud_connection: " ++ describeOptionalFlag c.cloudFlag ++
    ", disable_notifications: " ++ describeFlag c.muted ++
    ", token: " ++ describeText (c.token.map fun _ => "<redacted>") ++ " \x7d"

@[simp] theorem token_withoutToken (c : Connection) : c.withoutToken.token = none := rfl

end Connection

end ServerConnections
