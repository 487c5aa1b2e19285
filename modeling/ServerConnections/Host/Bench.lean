import ServerConnections.Registry.Edit
import ServerConnections.Registry.Migration
import ServerConnections.Settings.File

/-!
# A host on a bench

A host on which everything can be watched and made to fail: settings on any
medium, secrets in a table, and a probe that answers as it is told. It records
every call, before it can fail.

`Conditions` say which calls are refused and what the probe answers; both may
depend on the number of calls made before, so any pattern of failures in a run is
given by some conditions. A call that is refused changes nothing.

## Main definitions

* `Bench.registry` — the registry of the host, given the settings store of its
  medium
* `Conditions.calm` — nothing is refused, and the probe answers by address
-/

namespace ServerConnections

/-- A call of the registry on its host. -/
inductive Call where
  | load
  | save
  | get (key : String)
  | store (key token : String)
  | delete (key : String)
  | probe (url : String)
  | announce (event : TokenUpdated)
deriving DecidableEq, Repr

/-- What is refused, and why, and what the probe answers. The number is that of
the calls made before. -/
structure Conditions where
  refusesLoad : Nat → Option String
  refusesSave : Nat → Option String
  refusesGet : Nat → String → Option String
  refusesStore : Nat → String → Option String
  refusesDelete : Nat → String → Option String
  isUp : Nat → String → Bool

/-- Nothing is refused, and the probe answers by address. -/
def Conditions.calm (isUp : String → Bool) : Conditions where
  refusesLoad _ := none
  refusesSave _ := none
  refusesGet _ _ := none
  refusesStore _ _ := none
  refusesDelete _ _ := none
  isUp _ url := isUp url

/-- Who is told of token updates. -/
inductive Listener where
  /-- Nobody is told. -/
  | nobody
  /-- Somebody is told and keeps what was said. -/
  | present
  /-- Somebody would be told, but does not listen any more. -/
  | gone
deriving DecidableEq, Repr

/-- The state of a host on a bench, the settings being on a medium `μ`. -/
structure Bench (μ : Type) where
  medium : μ
  secrets : SecretTable
  conditions : Conditions
  listener : Listener
  /-- The calls made, in order. -/
  calls : List Call
  /-- The announcements heard, in order. -/
  events : List TokenUpdated

namespace Bench

variable {μ : Type}

/-- A host on which nothing happened yet. -/
def fresh (medium : μ) (secrets : SecretTable) (conditions : Conditions)
    (listener : Listener) :
    Bench μ :=
  ⟨medium, secrets, conditions, listener, [], []⟩

/-- The host after a call. -/
def called (call : Call) (b : Bench μ) : Bench μ := { b with calls := b.calls ++ [call] }

/-- The number of calls made. -/
def time (b : Bench μ) : Nat := b.calls.length

/-- The action behind a call: it is recorded, and refused or done. -/
def guarded {ε α : Type} (call : Call) (refusal : Bench μ → Option String)
    (toError : String → ε) (x : Act (Bench μ) ε α) : Act (Bench μ) ε α := fun b =>
  match refusal b with
  | some reason => .error (toError reason) (b.called call)
  | none => x (b.called call)

/-- The settings store of the host. -/
def settingsStore (store : SettingsStore μ) : SettingsStore (Bench μ) where
  load :=
    guarded .load (fun b => b.conditions.refusesLoad b.time)
      (fun reason => .file (.refused reason))
      (store.load.within medium fun m b => { b with medium := m })
  save settings :=
    guarded .save (fun b => b.conditions.refusesSave b.time)
      (fun reason => .file (.refused reason))
      ((store.save settings).within medium fun m b => { b with medium := m })

/-- The secret store of the host. -/
def secretStore : SecretStore (Bench μ) where
  get key :=
    guarded (.get key) (fun b => b.conditions.refusesGet b.time key) .notRun
      ((SecretTable.store.get key).within secrets fun t b => { b with secrets := t })
  store key secret :=
    guarded (.store key secret) (fun b => b.conditions.refusesStore b.time key) .notRun
      ((SecretTable.store.store key secret).within secrets fun t b => { b with secrets := t })
  delete key :=
    guarded (.delete key) (fun b => b.conditions.refusesDelete b.time key) .notRun
      ((SecretTable.store.delete key).within secrets fun t b => { b with secrets := t })

/-- The probe of the host. -/
def probe (url : String) : StateM (Bench μ) Bool := fun b =>
  (b.conditions.isUp b.time url, b.called (.probe url))

/-- Tells of a token update. -/
def announce (event : TokenUpdated) : StateM (Bench μ) Unit := fun b =>
  match b.listener with
  | .nobody => ((), b)
  | .present => ((), { b.called (.announce event) with events := b.events ++ [event] })
  | .gone => ((), b.called (.announce event))

/-- **The registry of the host.** -/
def registry (store : SettingsStore μ) (cloudDomain : String) : Registry (Bench μ) where
  settings := settingsStore store
  secrets := secretStore
  classifier := ⟨cloudDomain, probe⟩
  announce := announce

end Bench

end ServerConnections
