import ServerConnections.Secrets.Store
import ServerConnections.Server.Classifier
import ServerConnections.Settings.Storage

/-!
# The registry of connections

The registry keeps connections in the unified list of a settings document and
their tokens in a secret store; it never writes a token into the document. This
file has what the registry works with and the questions that it answers. Changes
are in `Registry.Edit` and `Registry.Migration`.

A connection that a question answers has no token, unless the question is for one
connection by its name.

## Main definitions

* `ConnectionError` — why an operation on connections fails
* `SecretStore.storeFor`, `SecretStore.tokenFor`, `SecretStore.deleteFor` — the token
  of a connection, which is the secret under its storage key
* `TokenUpdated` — how the analysis server is told of tokens that may have changed
* `Registry` — the settings, the secrets, the classifier and the announcements
-/

namespace ServerConnections

/-! ### Why an operation fails -/

/-- Why an operation on connections fails. Each constructor is one cause: the first
five are rejections of what was asked for, the last two are faults of the places
where settings and secrets are kept. -/
inductive ConnectionError where
  /-- No connection has the id. -/
  | notFound (id : String)
  /-- Another connection of the kind has the id. -/
  | alreadyExists (kind : ServerKind) (id : String)
  | missingServerUrl
  /-- A cloud connection needs an organization. -/
  | missingOrganization (serverUrl : String)
  /-- There is no key that the token could be stored under. -/
  | missingStorageKey (id : String)
  | settings (fault : StorageFault)
  | secret (fault : SecretFault)
deriving DecidableEq, Repr

namespace ConnectionError

/-- The text of an error. -/
def message : ConnectionError → String
  | notFound id => "Could not find connection '" ++ id ++ "' to update"
  | alreadyExists kind id =>
      "A " ++ kind.name ++ " connection named '" ++ id ++ "' already exists"
  | missingServerUrl => "Connection has no server URL"
  | missingOrganization url => "Cloud connection to " ++ url ++ " has no organization key"
  | missingStorageKey id => "Connection '" ++ id ++ "' has no token storage key"
  | settings fault => "Settings error: " ++ fault.message
  | secret fault => "Secret storage error: " ++ fault.message

end ConnectionError

/-! ### Tokens of connections

An empty token is no token: storing one leaves what is there. Whether a connection
has a token is a question that never fails; a store that cannot answer counts as
having none. -/

namespace SecretStore

variable {σ : Type} (secrets : SecretStore σ)

/-- Stores a token under a key, unless it is empty. -/
def storeUnder (key token : String) : Act σ ConnectionError Unit :=
  if token.isEmpty then pure ()
  else (secrets.store key token).mapError .secret

/-- Stores a token for a connection, unless it is absent or empty. -/
def storeFor (c : Connection) (token : Option String) : Act σ ConnectionError Unit :=
  match nonEmpty? token with
  | none => pure ()
  | some token =>
    match c.storageKey with
    | none => throw (.missingStorageKey c.idText)
    | some key => secrets.storeUnder key token

/-- The token of a connection. -/
def tokenFor (c : Connection) : Act σ SecretFault (Option String) :=
  match c.storageKey with
  | none => pure none
  | some key => secrets.get key

/-- Whether there is a token under a key. -/
def hasUnder (key : String) : StateM σ Bool := fun s =>
  match secrets.get key s with
  | .ok token s => (token.isSome, s)
  | .error _ s => (false, s)

/-- Whether a connection has a token. -/
def hasFor (c : Connection) : StateM σ Bool :=
  match c.storageKey with
  | none => pure false
  | some key => secrets.hasUnder key

/-- Deletes the token under a key. -/
def deleteUnder (key : String) : Act σ ConnectionError Unit :=
  (secrets.delete key).mapError .secret

/-- Deletes the token of a connection. -/
def deleteFor (c : Connection) : Act σ ConnectionError Unit :=
  match c.storageKey with
  | none => pure ()
  | some key => secrets.deleteUnder key

end SecretStore

/-! ### Token updates -/

/-- The method by which the analysis server is told. -/
def tokenUpdateMethod : String := "codescan/onTokenUpdate"

/-- The token of a connection may have changed: the analysis server has to be told to
drop what it knows. -/
structure TokenUpdated where
  connectionId : String
  kind : ServerKind
deriving DecidableEq, Repr

namespace TokenUpdated

/-- What was read of an event. -/
structure Draft where
  connectionId : Option String
  kind : Option ServerKind

/-- Both fields are needed. -/
def Draft.complete? (d : Draft) : Option TokenUpdated :=
  d.connectionId.bind fun id => d.kind.map fun kind => ⟨id, kind⟩

/-- The fields in the order in which an array gives them. -/
def fields : List (Json.Field Draft) :=
  [.of "connectionId" .text fun x d => { d with connectionId := some x },
    .of "kind" ServerKind.form fun x d => { d with kind := some x }]

/-- How an event is read. -/
def record : Json.Record Draft TokenUpdated := ⟨fields, ⟨none, none⟩, Draft.complete?⟩

/-- An event is given by its fields. -/
def form : Json.Form TokenUpdated := record.form

/-- The event as a JSON value. -/
def toValue (e : TokenUpdated) : Json.Value :=
  .object [("connectionId", .text e.connectionId), ("kind", e.kind.toValue)]

end TokenUpdated

/-! ### What the registry works with -/

/-- A registry: the settings, the secrets, the classifier, and how token updates
are announced. -/
structure Registry (σ : Type) where
  settings : SettingsStore σ
  secrets : SecretStore σ
  classifier : Classifier σ
  announce : TokenUpdated → StateM σ Unit

namespace Registry

variable {σ : Type} (r : Registry σ)

/-- Loads the settings. -/
def loadSettings : Act σ ConnectionError Settings :=
  r.settings.load.mapError .settings

/-- Saves the settings. -/
def saveSettings (settings : Settings) : Act σ ConnectionError Unit :=
  (r.settings.save settings).mapError .settings

/-- The token under a key. -/
def tokenUnder (key : String) : Act σ ConnectionError (Option String) :=
  (r.secrets.get key).mapError .secret

/-- The token of a connection. -/
def tokenOf (c : Connection) : Act σ ConnectionError (Option String) :=
  (r.secrets.tokenFor c).mapError .secret

/-- The connection as a classified one: where it is not known yet who hosts the
server, this is found out. -/
def classified (c : Connection) : StateM σ Connection :=
  match c.cloudFlag with
  | some _ => pure c
  | none => do return c.withCloudFlag (← r.classifier.isCloudConnection c)

/-! ### Questions -/

/-- The connections of a kind, as they are kept. -/
def list (kind : ServerKind) : Act σ ConnectionError (List Connection) := do
  return (← r.loadSettings).connections.ofKind kind

/-- **The connection of a kind and an id, with its token.** -/
def find (kind : ServerKind) (id : String) : Act σ ConnectionError (Option Connection) := do
  match (← r.loadSettings).connections.find? kind id with
  | none => return none
  | some c => return some { c with token := ← r.tokenOf c }

/-- The first cloud connection of an organization, as it is kept. -/
def findByOrganization (organization : String) :
    Act σ ConnectionError (Option Connection) := do
  return ((← r.loadSettings).connections.ofKind .cloud).find? fun c =>
    c.organization == some organization

end Registry

end ServerConnections
