import ServerConnections.Secrets.Keychain

/-!
# A keyring on a bench

A keyring in memory that records every call and may be made to fail. Setting a
secret may also go wrong without a word: the secret is dropped or altered.
-/

namespace ServerConnections

/-- A call on a keyring. -/
inductive KeyringCall where
  | openEntry (service account : String)
  | set (account secret : String)
  | get (account : String)
  | delete (account : String)
deriving DecidableEq, Repr

/-- What becomes of a secret that is set. -/
inductive Setting where
  | kept
  | dropped
  | altered
  | refused (fault : KeyringFault)
deriving DecidableEq, Repr

/-- How a keyring behaves. -/
structure KeyringModes where
  opening : Option KeyringFault
  setting : Setting
  getting : Option KeyringFault
  deleting : Option KeyringFault
deriving DecidableEq, Repr

/-- Nothing goes wrong. -/
def KeyringModes.faithful : KeyringModes := ⟨none, .kept, none, none⟩

/-- A keyring that records its calls. -/
structure RecordedKeyring where
  entries : KeyringTable
  modes : KeyringModes
  /-- The calls made, in order. -/
  calls : List KeyringCall

namespace RecordedKeyring

/-- An empty keyring without faults. -/
def fresh : RecordedKeyring := ⟨[], .faithful, []⟩

/-- The keyring after a call. -/
def called (call : KeyringCall) (r : RecordedKeyring) : RecordedKeyring :=
  { r with calls := r.calls ++ [call] }

/-- The keyring with other entries. -/
def withEntries (entries : KeyringTable) (r : RecordedKeyring) : RecordedKeyring :=
  { r with entries }

/-- The action behind a call: it is recorded, and fails if it is made to. -/
def guarded {α : Type} (call : KeyringCall) (fault : KeyringModes → Option KeyringFault)
    (x : Act KeyringTable KeyringFault α) : Act RecordedKeyring KeyringFault α := fun r =>
  match fault r.modes with
  | some fault => .error fault (r.called call)
  | none => (x.within entries withEntries) (r.called call)

/-- What a secret that is altered becomes. -/
def alteration (secret : String) : String := secret ++ "x"

/-- Sets a secret. -/
def set (service account secret : String) : Act RecordedKeyring KeyringFault Unit := fun r =>
  let put := fun secret => (KeyringTable.ring.setSecret service account secret).within entries
    withEntries
  let r := r.called (.set account secret)
  match r.modes.setting with
  | .kept => put secret r
  | .dropped => .ok () r
  | .altered => put (alteration secret) r
  | .refused fault => .error fault r

/-- The keyring as it is used. -/
def ring : Keyring RecordedKeyring where
  openEntry service account :=
    guarded (.openEntry service account) KeyringModes.opening
      (KeyringTable.ring.openEntry service account)
  setSecret := set
  getSecret service account :=
    guarded (.get account) KeyringModes.getting (KeyringTable.ring.getSecret service account)
  deleteSecret service account :=
    guarded (.delete account) KeyringModes.deleting
      (KeyringTable.ring.deleteSecret service account)

end RecordedKeyring

end ServerConnections
