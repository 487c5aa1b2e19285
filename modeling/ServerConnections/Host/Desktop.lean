import ServerConnections.Host.Bench
import ServerConnections.Host.RecordedKeyring
import ServerConnections.Server.Classifier

/-!
# The host of a user

The host on which the registry is opened by default: settings and options in a
directory of the user's, tokens in the keyring under the service that the options
name, and a probe over the network. Here the network refuses every connection,
and the announcements made are recorded.
-/

namespace ServerConnections

/-- The state of a user's host. -/
structure Desktop where
  /-- The files below the user's directory for the program. -/
  files : Files
  keyring : RecordedKeyring
  listener : Listener
  /-- The announcements made, in order. -/
  announced : List TokenUpdated
  /-- The announcements heard, in order. -/
  events : List TokenUpdated

namespace Desktop

/-- A host with some files. -/
def fresh (files : Files) (listener : Listener) : Desktop :=
  ⟨files, .fresh, listener, [], []⟩

/-- The path of the options. -/
def optionsPath : FilePath := .ofText (Location.options "")

/-- The file of the settings, at a time. -/
def settingsFile (stamp : String) : SettingsFile := ⟨.ofText (Location.settings ""), stamp⟩

/-- A network that refuses every connection. -/
def refusal : Transport Desktop := fun _ => pure none

/-- Tells of a token update. -/
def announce (event : TokenUpdated) : StateM Desktop Unit := fun d =>
  match d.listener with
  | .nobody => ((), d)
  | .present =>
    ((), { d with announced := d.announced ++ [event], events := d.events ++ [event] })
  | .gone => ((), { d with announced := d.announced ++ [event] })

/-- The registry that options ask for, for a user and at a time. -/
def registry (o : Options) (user stamp : String) : Registry Desktop where
  settings := (settingsFile stamp).store.within files fun f d => { d with files := f }
  secrets := ((Keychain.mk o.keychainService user).store RecordedKeyring.ring).within keyring
    fun k d => { d with keyring := k }
  classifier := HealthProbe.classifier o refusal
  announce := announce

/-- **Opens the registry**, by the options that the host has. -/
def openRegistry (user stamp : String) : Act Desktop ConnectionError (Registry Desktop) := do
  let options ← Act.mapError .settings
    ((Options.load optionsPath).within files fun f (d : Desktop) => { d with files := f })
  return registry options user stamp

end Desktop

end ServerConnections
