import ServerConnections.Secrets.Store

/-!
# Secrets in a keyring

The keyring of an operating system keeps secrets by service and account. A
keychain is the secret store over one service of a keyring: the account of a key
names the user, too, so that the same secret is found again whoever asks.

Some keyrings take a secret and drop it. A secret is therefore read back as soon
as it is stored, and storing succeeds only if it is still the same.
-/

namespace ServerConnections

/-- What can be done with a keyring. An entry is opened by service and account
before anything is done with it. -/
structure Keyring (σ : Type) where
  openEntry : (service account : String) → Act σ KeyringFault Unit
  setSecret : (service account secret : String) → Act σ KeyringFault Unit
  getSecret : (service account : String) → Act σ KeyringFault String
  deleteSecret : (service account : String) → Act σ KeyringFault Unit

/-- One service of a keyring, and the user in whose name it is used. -/
structure Keychain where
  service : String
  user : String
deriving DecidableEq, Repr

namespace Keychain

variable {σ : Type} (chain : Keychain) (ring : Keyring σ)

/-- The account of a key. -/
def account (key : String) : String := chain.user ++ "@" ++ key

/-- Opens the entry of a key. -/
def openKey (key : String) : Act σ KeyringFault Unit :=
  ring.openEntry chain.service (chain.account key)

/-- Stores a secret and reads it back. -/
def storeSecret (key secret : String) : Act σ SecretFault Unit := do
  let readBack ← Act.mapError .keyring do
    chain.openKey ring key
    ring.setSecret chain.service (chain.account key) secret
    ring.getSecret chain.service (chain.account key)
  if readBack = secret then return () else throw (.unverified key)

/-- What came of asking for an entry: an entry that is not there is no fault. -/
def ifThere {α : Type} (x : Act σ KeyringFault α) : Act σ SecretFault (Option α) := fun s =>
  match x s with
  | .ok a s => .ok (some a) s
  | .error .noEntry s => .ok none s
  | .error fault s => .error (.keyring fault) s

/-- The secret of a key. -/
def secretOf (key : String) : Act σ SecretFault (Option String) := do
  Act.mapError .keyring (chain.openKey ring key)
  ifThere (ring.getSecret chain.service (chain.account key))

/-- Deletes the secret of a key. -/
def deleteSecret (key : String) : Act σ SecretFault Unit := do
  Act.mapError .keyring (chain.openKey ring key)
  let _ ← ifThere (ring.deleteSecret chain.service (chain.account key))

/-- The secret store over the keychain. -/
def store :
    SecretStore σ := ⟨chain.secretOf ring, chain.storeSecret ring, chain.deleteSecret ring⟩

end Keychain

/-- The secrets of a keyring in memory, by service and account. -/
abbrev KeyringTable := List ((String × String) × String)

namespace KeyringTable

/-- The secret of a service and an account. -/
def get? (service account : String) (t : KeyringTable) : Option String :=
  t.lookup (service, account)

/-- Sets the secret of a service and an account. -/
def put (service account secret : String) : KeyringTable → KeyringTable
  | [] => [((service, account), secret)]
  | (k, s) :: rest =>
    if k = (service, account) then (k, secret) :: rest
    else (k, s) :: put service account secret rest

/-- Drops the secret of a service and an account. -/
def remove (service account : String) (t : KeyringTable) : KeyringTable :=
  t.filter fun p => p.1 != (service, account)

/-- The keyring in memory, which never fails but for entries that are not there. -/
def ring : Keyring KeyringTable where
  openEntry _ _ := pure ()
  setSecret service account secret := fun t => .ok () (t.put service account secret)
  getSecret service account := fun t =>
    match t.get? service account with
    | some secret => .ok secret t
    | none => .error .noEntry t
  deleteSecret service account := fun t =>
    match t.get? service account with
    | some _ => .ok () (t.remove service account)
    | none => .error .noEntry t

end KeyringTable

end ServerConnections
