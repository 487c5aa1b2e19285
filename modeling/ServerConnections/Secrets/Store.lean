import ServerConnections.Action
import ServerConnections.Keyed

/-!
# Where secrets are kept

A secret store is a durable map from keys to secrets. A key without secret is not
an error: reading it answers nothing, and deleting it does nothing.

This file has the store in memory; the one over a keyring is in
`Secrets.Keychain`.
-/

namespace ServerConnections

/-- Why a keyring refused a call. -/
inductive KeyringFault where
  | noEntry
  | platform (reason : String)
  | noAccess (reason : String)
  | notText
  | tooLong (item : String) (limit : Nat)
  | invalid (item reason : String)
deriving DecidableEq, Repr

/-- The text of a keyring fault. -/
def KeyringFault.message : KeyringFault → String
  | noEntry => "No matching entry found in secure storage"
  | platform reason => "Platform secure storage failure: " ++ reason
  | noAccess reason => "Couldn't access platform secure storage: " ++ reason
  | notText => "Data is not UTF-8 encoded"
  | tooLong item limit =>
    "Attribute '" ++ item ++ "' is longer than platform limit of " ++
      String.ofList (Nat.toDigits 10 limit) ++ " chars"
  | invalid item reason => "Attribute " ++ item ++ " is invalid: " ++ reason

/-- Why a secret could not be read or written. -/
inductive SecretFault where
  | keyring (fault : KeyringFault)
  /-- What was read back is not what was written. -/
  | unverified (key : String)
  /-- The call did not get to the store. -/
  | notRun (reason : String)
deriving DecidableEq, Repr

/-- The text of a secret fault. -/
def SecretFault.message : SecretFault → String
  | keyring fault => "Keychain error: " ++ fault.message
  | unverified key => "Keychain store verification failed for ID: " ++ key
  | notRun reason => "Keychain task failed: " ++ reason

/-- A place where secrets are kept. -/
structure SecretStore (σ : Type) where
  get : String → Act σ SecretFault (Option String)
  store : String → String → Act σ SecretFault Unit
  delete : String → Act σ SecretFault Unit

namespace SecretStore

variable {σ τ : Type}

/-- The store on a part of a larger state. -/
def within (get : τ → σ) (set : σ → τ → τ) (secrets : SecretStore σ) : SecretStore τ where
  get key := (secrets.get key).within get set
  store key secret := (secrets.store key secret).within get set
  delete key := (secrets.delete key).within get set

end SecretStore

/-- Secrets in memory, by key. -/
abbrev SecretTable := Keyed String

namespace SecretTable

/-- The store in memory, which never fails. -/
def store : SecretStore SecretTable where
  get key := fun t => .ok (Keyed.get? key t) t
  store key secret := fun t => .ok () (Keyed.put key secret t)
  delete key := fun t => .ok () (Keyed.remove key t)

end SecretTable

end ServerConnections
