import ServerConnections.Registry.Basic

/-!
# Migration

Settings from before there was a secret store carry tokens in plain text, and
settings from before there was one list for all connections have two former
lists. Migration brings both up to date: it completes the connections of the
former lists, moves tokens into the secret store, and moves the former lists to
the end of the unified one. It may be repeated.

Three things may happen to the token of a connection, its `TokenFate`; a token
that the secret store has already is dropped from the document, because the store
is right. `Registry.hasUnmigrated` tells beforehand whether there is a token to
move.
-/

namespace ServerConnections

/-! ### Completing connections of the former lists -/

/-- Which list of the document a connection is in. -/
inductive Origin where
  | formerSelfHosted
  | formerCloud
  | unified
deriving DecidableEq, Repr

namespace Connection

/-- A connection of the former list for the cloud, with what was left unsaid
there: it is a cloud connection unless it says otherwise, to the default address
unless it has one. -/
def ofFormerCloud (c : Connection) : Connection :=
  { c with
    cloudFlag := c.cloudFlag.or (some true)
    serverUrl := (nonEmpty? c.serverUrl).or (some defaultCloudUrl) }

/-- The connection with a clean address. -/
def withCleanUrl (c : Connection) : Connection :=
  { c with serverUrl := c.serverUrl.map Address.clean }

/-- A classified connection in the shape of the unified list: without an
organization it stays self-hosted, a self-hosted one has no organization, and
one without an id gets its default one. -/
def settled (c : Connection) : Connection :=
  let c := if c.isCloud && (nonEmpty? c.organization).isNone then c.withCloudFlag false else c
  let c := if c.isCloud then c else { c with organization := none }
  if (nonEmpty? c.id).isNone then c.withId c.defaultId else c

end Connection

/-- All connections of the document with where they are, in the order in which
their tokens are moved. -/
def ConnectionLists.withOrigins (lists : ConnectionLists) : List (Origin × Connection) :=
  lists.legacySelfHosted.map (Origin.formerSelfHosted, ·) ++
    lists.legacyCloud.map (Origin.formerCloud, ·) ++ lists.servers.map (Origin.unified, ·)

/-! ### Moving connections -/

/-- Moves connections to the end of a list, unless one of the same kind and id is
there, and counts those that were not moved. -/
def adopt (servers : List Connection) : List Connection → List Connection × Nat
  | [] => (servers, 0)
  | c :: cs =>
    if servers.any (Connection.isNamed c.kind c.idText) then
      let (all, duplicates) := adopt servers cs
      (all, duplicates + 1)
    else adopt (servers ++ [c]) cs

/-! ### Reports -/

/-- What became of the token of a connection. -/
inductive TokenFate where
  /-- There was none. -/
  | absent
  /-- It was moved into the secret store. -/
  | migrated
  /-- It was dropped: it was empty, or the store had one. -/
  | stripped
  /-- It was left, for there is no key that it could be stored under. -/
  | skipped
deriving DecidableEq, Repr

/-- What a migration did. -/
structure MigrationReport where
  migrated : Nat
  stripped : Nat
  skipped : Nat
  /-- Connections moved into the unified list. -/
  moved : Nat
  /-- Connections that were there already. -/
  duplicates : Nat
  saved : Bool
deriving DecidableEq, Repr

namespace MigrationReport

/-- A migration that did nothing. -/
def nothing : MigrationReport := ⟨0, 0, 0, 0, 0, false⟩

/-- The report on tokens and on the connections of the former lists. -/
def of (fates : List TokenFate) (moved duplicates : Nat) (saved : Bool) : MigrationReport :=
  ⟨fates.count .migrated, fates.count .stripped, fates.count .skipped, moved, duplicates,
    saved⟩

end MigrationReport

namespace Registry

variable {σ : Type} (r : Registry σ)

/-- A connection of a former list in the shape of the unified one. -/
def completed (inCloudList : Bool) (c : Connection) : StateM σ Connection := do
  let c := if inCloudList then c.ofFormerCloud else c
  return (← r.classified c.withCleanUrl).settled

/-- A connection with the key that its token will have after migration. -/
def prepared (origin : Origin) (c : Connection) : StateM σ Connection :=
  match origin with
  | .formerSelfHosted => r.completed false c
  | .formerCloud => r.completed true c
  | .unified => r.classified c

/-- Whether one of some connections has a token that the secret store lacks. -/
def anyUnmigrated : List (Origin × Connection) → StateM σ Bool
  | [] => pure false
  | (origin, c) :: rest =>
    if c.hasPlainToken then do
      if ← r.secrets.hasFor (← r.prepared origin c) then anyUnmigrated rest else return true
    else anyUnmigrated rest

/-- **Whether there is a plain token that the secret store lacks.** -/
def hasUnmigrated : Act σ ConnectionError Bool := do
  .ofState (r.anyUnmigrated (← r.loadSettings).connections.withOrigins)

/-! ### The passes of a migration -/

/-- Every connection of a list, completed in order. -/
def completedAll (inCloudList : Bool) : List Connection → StateM σ (List Connection)
  | [] => pure []
  | c :: cs => do return (← r.completed inCloudList c) :: (← completedAll inCloudList cs)

/-- Moves a token into the secret store, unless there is one under its key. -/
def moveToken (key token : String) : Act σ ConnectionError TokenFate := do
  if ← .ofState (r.secrets.hasUnder key) then return .stripped
  r.secrets.storeUnder key token
  return .migrated

/-- Moves the token of a connection, and tells what became of it. -/
def migratedToken (c : Connection) : Act σ ConnectionError (Connection × TokenFate) :=
  match c.token with
  | none => pure (c, .absent)
  | some token =>
    if token.isEmpty then pure (c.withoutToken, .stripped)
    else do
      let c ← .ofState (r.classified c)
      match c.storageKey with
      | none => return (c, .skipped)
      | some key => return (c.withoutToken, ← r.moveToken key token)

/-- Moves the tokens of connections, in order. -/
def migratedTokens : List Connection → Act σ ConnectionError (List (Connection × TokenFate))
  | [] => pure []
  | c :: cs => do return (← r.migratedToken c) :: (← migratedTokens cs)

/-- **Moves plain tokens into the secret store and the former lists into the
unified one.** The document is saved only if it changed and has connections. -/
def migrate : Act σ ConnectionError MigrationReport := do
  let settings ← r.loadSettings
  let lists := settings.connections
  let selfHosted ← .ofState (r.completedAll false lists.legacySelfHosted)
  let cloud ← .ofState (r.completedAll true lists.legacyCloud)
  let former ← r.migratedTokens (selfHosted ++ cloud)
  let unified ← r.migratedTokens lists.servers
  let (servers, duplicates) := adopt (unified.map Prod.fst) (former.map Prod.fst)
  let fates := former.map Prod.snd ++ unified.map Prod.snd
  let changed := lists.hasLegacy || fates.any fun f => f == .migrated || f == .stripped
  let saved := changed && !servers.isEmpty
  if saved then r.saveSettings (settings.withConnections ⟨[], [], servers⟩)
  return .of fates (former.length - duplicates) duplicates saved

end Registry

end ServerConnections
