import ServerConnections.Files.Basic
import ServerConnections.Settings.Document

/-!
# Where settings are kept

A settings store loads and saves the whole document. There is no transaction that
spans a load and the save that follows.

This file has the store in memory; the one in a file is in `Settings.File`.
-/

namespace ServerConnections

/-- Why settings or options could not be loaded or saved. -/
inductive StorageFault where
  | noConfigDirectory
  | file (fault : FileFault)
  | json (fault : Json.Fault)
deriving DecidableEq, Repr

/-- What is said of a text that could not be read. -/
def Json.Fault.message : Json.Fault → String
  | malformed => "malformed value"
  | cutShort => "unexpected end of input"
  | misfit => "value of an unexpected form"

/-- The text of a storage fault. -/
def StorageFault.message : StorageFault → String
  | noConfigDirectory => "Failed to determine config directory"
  | file fault => "IO error: " ++ fault.message
  | json fault => "JSON error: " ++ fault.message

/-- A place where the settings document is kept. -/
structure SettingsStore (σ : Type) where
  load : Act σ StorageFault Settings
  save : Settings → Act σ StorageFault Unit

namespace SettingsStore

variable {σ τ : Type}

/-- The store on a part of a larger state. -/
def within (get : τ → σ) (set : σ → τ → τ) (store : SettingsStore σ) : SettingsStore τ where
  load := store.load.within get set
  save settings := (store.save settings).within get set

end SettingsStore

/-- Settings in memory. -/
structure MemorySettings where
  document : Settings
  /-- How often the document was saved. -/
  saves : Nat
deriving Repr, Inhabited

namespace MemorySettings

/-- A document that was not saved yet. -/
def of (document : Settings) : MemorySettings := ⟨document, 0⟩

/-- The settings after a save. -/
def saved (m : MemorySettings) (document : Settings) : MemorySettings :=
  ⟨document, m.saves + 1⟩

/-- The store in memory, which never fails. -/
def store : SettingsStore MemorySettings where
  load := fun m => .ok m.document m
  save settings := fun m => .ok () (m.saved settings)

end MemorySettings

end ServerConnections
