import ServerConnections.Settings.Options
import ServerConnections.Settings.Storage

/-!
# Settings in a file

The settings document is kept as indented JSON. It is written to a temporary
file first, which then takes the place of the settings file, so that a document is
never half written. A file that cannot be read as a document counts as empty, but
a copy of it is kept beside it.

Options are read from a file of their own and are never written.
-/

namespace ServerConnections

/-- The file that settings are kept in. -/
structure SettingsFile where
  path : FilePath
  /-- The time, as it is put into the names of backups. -/
  stamp : String

namespace SettingsFile

/-- The path that a document is written to at first. -/
def temporaryPath (f : SettingsFile) : FilePath := f.path.withExtension "json.tmp"

/-- The path of a backup. -/
def backupPath (f : SettingsFile) : FilePath :=
  f.path.withExtension ("json.backup." ++ f.stamp)

/-- Whether there is anything at the path of the file. -/
def isPresent (f : SettingsFile) (files : Files) : Bool := files.isPresent f.path

/-- Copies the file, if there is one, and answers where to. -/
def backup (f : SettingsFile) : Act Files StorageFault FilePath := fun files =>
  if f.isPresent files then
    match Files.copy f.path f.backupPath files with
    | .ok _ files => .ok f.backupPath files
    | .error fault files => .error (.file fault) files
  else .ok f.backupPath files

/-- The document that a text is read as: the blank one, if the text is blank or
no document. A copy of such a text is kept, if it can be. -/
def document (f : SettingsFile) (text : String) : Act Files StorageFault Settings :=
  if Text.isBlankText text then pure .blank
  else
    match Settings.parse text with
    | .ok settings => pure settings
    | .error _ => fun files => .ok .blank (f.backup.outcome files).2

/-- **Loads the document**, which is blank if there is no file. -/
def load (f : SettingsFile) : Act Files StorageFault Settings := fun files =>
  match Files.readText f.path files with
  | .ok text files => f.document text files
  | .error .notFound files => .ok .blank files
  | .error fault files => .error (.file fault) files

/-- **Saves a document.** -/
def save (f : SettingsFile) (settings : Settings) : Act Files StorageFault Unit :=
  Act.mapError .file do
    Files.makeDirectories f.path.directory
    Files.write f.temporaryPath settings.savedText.toUTF8
    Files.rename f.temporaryPath f.path

/-- The store in the file. -/
def store (f : SettingsFile) : SettingsStore Files := ⟨f.load, f.save⟩

end SettingsFile

/-- Loads options from a file; all are the defaults if there is none. -/
def Options.load (path : FilePath) : Act Files StorageFault Options := fun files =>
  match Files.readText path files with
  | .ok text files =>
    match Options.parse text with
    | .ok options => .ok options files
    | .error fault => .error (.json fault) files
  | .error .notFound files => .ok .defaults files
  | .error fault files => .error (.file fault) files

/-! ### Where files are -/

namespace Location

/-- The home directory: the one that the environment names, else the one of the
user's account. An empty name counts as none. -/
def home (environment : String) (account : Option String) : Except StorageFault String :=
  if environment.isEmpty then
    match account with
    | some directory => .ok directory
    | none => .error .noConfigDirectory
  else .ok environment

/-- The directory of the program in a home directory. -/
def directoryName : String := ".codescan"

/-- The name of the settings file. -/
def settingsName : String := "settings.json"

/-- The name of the options file. -/
def optionsName : String := "connected-mode.json"

/-- The directory that settings and options are in, given the home directory. -/
def directory (home : String) : String := FilePath.joinedText home directoryName

/-- The settings file, given the home directory. -/
def settings (home : String) : String := FilePath.joinedText (directory home) settingsName

/-- The options file, given the home directory. -/
def options (home : String) : String := FilePath.joinedText (directory home) optionsName

end Location

end ServerConnections
