import ServerConnections.Registry.Basic

/-!
# Adding, changing and removing connections

Every change loads the document, changes its unified list and saves it. Tokens
are stored before the document is saved, so a connection that is kept never lacks
a token that its caller gave; a token that is no longer needed is deleted after
that. A token is needed as long as any connection of the document has its key.

A caller gives a connection as far as it is known or is to change: fields may be
absent, and what is absent is filled in.
-/

namespace ServerConnections

namespace Connection

/-- The address given, cleaned, if there is any. -/
def givenUrl? (c : Connection) : Option String :=
  nonEmpty? ((nonEmpty? c.serverUrl).map Address.clean)

/-- The connection that is kept for a new one, given its address and kind. A
connection without an id gets its default one. -/
def kept (c : Connection) (serverUrl : String) (organization : Option String)
    (isCloud : Bool) : Connection :=
  let kept : Connection :=
    ⟨nonEmpty? c.id, some serverUrl, organization, some isCloud, c.muted, none⟩
  if kept.id.isNone then kept.withId kept.defaultId else kept

/-- The connection that an existing one becomes. -/
def changed (existing : Connection) (serverUrl : String) (organization : Option String)
    (isCloud muted : Bool) : Connection :=
  { existing with
    serverUrl := some serverUrl
    organization := if isCloud then organization else none
    cloudFlag := some isCloud
    muted := muted
    token := none }

/-- The connection as submitted from a form: with a clean address, and under its
default id if it has none. -/
def submitted (c : Connection) : Connection :=
  let c := { c with serverUrl := c.serverUrl.map Address.clean }
  if (nonEmpty? c.id).isNone then c.withId c.defaultId else c

/-- The kind that is asked for, if one is. -/
def askedKind (c : Connection) : Option ServerKind := c.cloudFlag.map .ofFlag

end Connection

namespace Registry

variable {σ : Type} (r : Registry σ)

/-- Whether an address is of the cloud service, unless the caller says. -/
def cloudOrAsk (flag : Option Bool) (serverUrl : String) : Act σ ConnectionError Bool :=
  match flag with
  | some flag => pure flag
  | none => .ofState (r.classifier.isCloud (some serverUrl))

/-- The connection to be kept for a new one. -/
def checked (c : Connection) : Act σ ConnectionError Connection := do
  match c.givenUrl? with
  | none => throw .missingServerUrl
  | some serverUrl =>
    if ← r.cloudOrAsk c.cloudFlag serverUrl then
      match nonEmpty? c.organization with
      | none => throw (.missingOrganization serverUrl)
      | some organization => return c.kept serverUrl (some organization) true
    else return c.kept serverUrl none false

/-- **Adds a connection** and answers it as it is kept. -/
def add (c : Connection) : Act σ ConnectionError Connection := do
  let kept ← r.checked c
  let settings ← r.loadSettings
  if (settings.connections.position? kept.kind kept.idText).isSome then
    throw (.alreadyExists kept.kind kept.idText)
  r.secrets.storeFor kept c.token
  r.saveSettings (settings.withServers (settings.servers ++ [kept]))
  return kept

/-! ### Changes -/

/-- The address that a connection has after a change. -/
def changedUrl (c existing : Connection) : Act σ ConnectionError String :=
  match c.givenUrl?, existing.serverUrl with
  | some url, _ => pure url
  | none, some url => pure url
  | none, none => throw .missingServerUrl

/-- The organization that a connection has after a change. -/
def changedOrganization (c existing : Connection) : Option String :=
  (nonEmpty? c.organization).or existing.organization

/-- Whether a connection leads to the cloud service after a change. Only a new
location is a reason to find out again. -/
def changedFlag (c existing : Connection) (serverUrl : String)
    (organization : Option String) : Act σ ConnectionError Bool :=
  let moved := existing.serverUrl != some serverUrl || organization != existing.organization
  r.cloudOrAsk (c.cloudFlag.or (existing.cloudFlag.filter fun _ => !moved)) serverUrl

/-- The token that is stored with a changed connection: the one given, else the
one under its old key if the key changes. -/
def changedToken (c existing changed : Connection) : Act σ ConnectionError (Option String) :=
  match nonEmpty? c.token with
  | some token => pure (some token)
  | none => if existing.storageKey = changed.storageKey then pure none else r.tokenOf existing

/-- Deletes the token under the old key of a changed connection, if the key is
no longer in use. -/
def dropOldKey (settings : Settings) (existing changed : Connection) :
    Act σ ConnectionError Unit :=
  match existing.storageKey with
  | none => pure ()
  | some key =>
    if some key = changed.storageKey ∨ settings.usesKey key then pure ()
    else r.secrets.deleteUnder key

/-- The connection that an existing one becomes, unless another of its new kind
has its id. -/
def changedConnection (settings : Settings) (c existing : Connection) :
    Act σ ConnectionError Connection := do
  let serverUrl ← changedUrl c existing
  let organization := changedOrganization c existing
  let isCloud ← r.changedFlag c existing serverUrl organization
  if isCloud && organization.isNone then throw (.missingOrganization serverUrl)
  let kind := ServerKind.ofFlag isCloud
  if kind != existing.kind && (settings.connections.position? kind c.idText).isSome then
    throw (.alreadyExists kind c.idText)
  return existing.changed serverUrl organization isCloud c.muted

/-- **Changes the connection of the same id** and answers it as it is kept. -/
def update (c : Connection) : Act σ ConnectionError Connection := do
  let settings ← r.loadSettings
  let found := (settings.connections.positionAny? c.askedKind c.idText).bind fun i =>
    settings.servers[i]?.map fun existing => (i, existing)
  match found with
  | none => throw (.notFound c.idText)
  | some (i, existing) =>
    let changed ← r.changedConnection settings c existing
    let token ← r.changedToken c existing changed
    r.secrets.storeFor changed token
    .ofState (r.announce ⟨c.idText, changed.kind⟩)
    let settings := settings.withServers (settings.servers.set i changed)
    r.saveSettings settings
    r.dropOldKey settings existing changed
    return changed

/-- **Adds or changes a connection** as submitted from a form. -/
def submit (c : Connection) : Act σ ConnectionError Connection := do
  let c := c.submitted
  let settings ← r.loadSettings
  if (settings.connections.positionAny? c.askedKind c.idText).isSome then r.update c
  else r.add c

/-- Deletes the token of a removed connection, unless its key is still in use. -/
def dropToken (settings : Settings) (removed : Connection) : Act σ ConnectionError Unit :=
  match removed.storageKey with
  | none => pure ()
  | some key => if settings.usesKey key then pure () else r.secrets.deleteUnder key

/-- **Removes a connection and its token**, and answers whether it was there. -/
def remove (id : String) (kind : ServerKind) : Act σ ConnectionError Bool := do
  let settings ← r.loadSettings
  let found := (settings.connections.position? kind id).bind fun i =>
    settings.servers[i]?.map fun removed => (i, removed)
  match found with
  | none => return false
  | some (i, removed) =>
    let settings := settings.withServers (settings.servers.eraseIdx i)
    r.dropToken settings removed
    r.saveSettings settings
    return true

end Registry

end ServerConnections
