import ServerConnections.Proofs.Registry.Matching
import ServerConnections.Proofs.Settings.File

/-!
# Settings in a file are settings in memory

Take two registries that differ in where their settings are: in a file, and in memory.  If
the file is read as the document in memory, and saving to the file does not fail, then no
dialogue can tell the two apart, and after every operation the file is read as the document
in memory again.

The relation between the two media says just that, and which files there are: the settings
file and those that were there before.  A load changes neither side.  A save is of a
document that was loaded, with other connections; such a document is read back from its
text, and so the relation holds again.

* `Bench.Alike` — two hosts that differ in their media
* `SettingsFile.Tracks` — the file is read as the document in memory
* `SettingsFile.Mirrors` — an outcome with the file is the one in memory
* `Registry.dialogue_mirrors` — dialogues with the file are those in memory
-/

namespace ServerConnections

theorem Act.outcome_of_ok {σ ε α : Type} {x : Act σ ε α} {s s' : σ} {a : α}
    (answers : x s = .ok a s') : x.outcome s = (.ok a, s') := by
  rw [outcome, answers]

/-! ## Hosts with other media -/

namespace Bench

variable {μ ν : Type} {R : μ → ν → Prop}

/-- The host with its settings on another medium. -/
def withMedium (m : ν) (b : Bench μ) : Bench ν :=
  ⟨m, b.secrets, b.conditions, b.listener, b.calls, b.events⟩

/-- **Two hosts that differ in their media**, which are in a relation. -/
def Alike (R : μ → ν → Prop) (b : Bench μ) (b' : Bench ν) : Prop :=
  ∃ m, b' = b.withMedium m ∧ R b.medium m

/-- A call is refused, or done. -/
theorem outcome_guarded {ε α : Type} (call : Call) (refusal : Bench μ → Option String)
    (toError : String → ε) (x : Act (Bench μ) ε α) (b : Bench μ) :
    (guarded call refusal toError x).outcome b = match refusal b with
      | some reason => (.error (toError reason), b.called call)
      | none => x.outcome (b.called call) := by
  unfold Act.outcome guarded
  cases refusal b <;> rfl

theorem matches_guarded_alike {ε α α' : Type} {g : α → α'} (call : Call)
    (refuses : Conditions → Nat → Option String) {toError : String → ε} {x : Act (Bench μ) ε α}
    {y : Act (Bench ν) ε α'} (h : Act.Matches (Alike R) g x y) :
    Act.Matches (Alike R) g (guarded call (fun b => refuses b.conditions b.time) toError x)
      (guarded call (fun b => refuses b.conditions b.time) toError y) := by
  rintro b _ ⟨m, rfl, related⟩
  have conditions : (b.withMedium m).conditions = b.conditions := rfl
  have time : (b.withMedium m).time = b.time := rfl
  simp only [outcome_guarded, conditions, time]
  cases refuses b.conditions b.time with
  | some reason => exact ⟨rfl, m, rfl, related⟩
  | none => exact h (b.called call) _ ⟨m, rfl, related⟩

/-- Calls do not look at the medium, those on the settings apart. -/
theorem callsMatch_alike (store : SettingsStore μ) (store' : SettingsStore ν)
    (cloudDomain : String) (R : μ → ν → Prop) :
    (registry store cloudDomain).CallsMatch id (Alike R) (registry store' cloudDomain) where
  filled := fillsAlike_id
  get key := by
    rw [Option.map_id]
    refine matches_guarded_alike (.get key) (fun k n => k.refusesGet n key) ?_
    rintro b _ ⟨m, rfl, related⟩
    exact ⟨rfl, m, rfl, related⟩
  store key secret := by
    refine matches_guarded_alike (.store key secret) (fun k n => k.refusesStore n key) ?_
    rintro b _ ⟨m, rfl, related⟩
    exact ⟨rfl, m, rfl, related⟩
  delete key := by
    refine matches_guarded_alike (.delete key) (fun k n => k.refusesDelete n key) ?_
    rintro b _ ⟨m, rfl, related⟩
    exact ⟨rfl, m, rfl, related⟩
  cloudDomain := rfl
  isUp := by
    rintro url b _ ⟨m, rfl, related⟩
    exact ⟨rfl, m, rfl, related⟩
  announce := by
    rintro event b _ ⟨m, rfl, related⟩
    have heard : (b.withMedium m).listener = b.listener := rfl
    simp only [registry, Bench.announce, heard]
    cases b.listener <;> exact ⟨m, rfl, related⟩

end Bench

/-! ## The file and the memory -/

namespace SettingsFile

variable {f : SettingsFile} {before files : Files} {m : MemorySettings} {s : Settings}

/-- **The file is read as the document in memory**, it can be saved to, and of the files
that there are only the settings file need not have been there before. -/
structure Tracks (f : SettingsFile) (before : Files) (m : MemorySettings) (files : Files) :
    Prop where
  contains : f.Contains files m.document
  savable : f.Savable files
  unsaved : m.saves = 0 → files = before
  saved : m.saves ≠ 0 → files.isPresent f.temporaryPath = false
  made : ∀ place content, files.at? place = some (.file content) →
    place = f.path.place ∨ before.at? place = some (.file content)
  kept : ∀ place content, before.at? place = some (.file content) →
    place = f.path.place ∨ place = f.temporaryPath.place ∨
      files.at? place = some (.file content)

theorem tracks_of (contains : f.Contains files s) (savable : f.Savable files) :
    f.Tracks files (.of s) files :=
  ⟨contains, savable, fun _ => rfl, fun saved => (saved rfl).elim, fun _ _ there => .inr there,
    fun _ _ there => .inr (.inr there)⟩

/-- **A save keeps the relation.** -/
theorem Tracks.save (tracks : f.Tracks before m files) (restorable : s.Restorable) :
    ∃ files', f.save s files = .ok () files' ∧ f.Tracks before (m.saved s) files' := by
  obtain ⟨files₁, ready, saves, directories⟩ := tracks.savable.save s
  have at? := ready.at?_saved s
  have file : ∀ place content, files₁.at? place = some (.file content) ↔
      files.at? place = some (.file content) := by
    intro place content
    rcases directories place with same | ⟨free, made⟩
    · rw [same]
    · rw [free, made]
      exact iff_of_false nofun nofun
  refine ⟨_, saves, ready.contains_saved restorable, (ready.saved s).savable, nofun,
    fun _ => ?_,
    fun place content there => ?_, fun place content there => ?_⟩
  · have gone : (f.saved s files₁).at? f.temporaryPath.place = none := by
      rw [at?, if_neg ready.place_ne, if_pos rfl]
    rw [Files.isPresent, (ready.saved s).temporary.place?_eq]
    simp only [gone]
    rfl
  · rw [at?] at there
    split at there
    · exact .inl ‹_›
    split at there
    · cases there
    · exact tracks.made place content ((file place content).1 there)
  · by_cases here : place = f.path.place
    · exact .inl here
    by_cases temporary : place = f.temporaryPath.place
    · exact .inr (.inl temporary)
    rw [at?, if_neg here, if_neg temporary, file]
    simpa [here, temporary] using tracks.kept place content there

end SettingsFile

open Bench

/-- A registry on the file matches the one in memory. -/
theorem SettingsFile.matches_tracks (f : SettingsFile) (before : Files)
    (cloudDomain : String) :
    (inMemory cloudDomain).Matches id (Alike (f.Tracks before))
      (fun s => Alike fun m files => f.Tracks before m files ∧ s.Restorable)
      (registry f.store cloudDomain) where
  before := callsMatch_alike _ _ _ _
  after _ := callsMatch_alike _ _ _ _
  load := by
    rintro b _ ⟨files, rfl, tracks⟩
    have conditions : (b.withMedium files).conditions = b.conditions := rfl
    have time : (b.withMedium files).time = b.time := rfl
    have loads : f.store.load.outcome files = (.ok b.medium.document, files) :=
      Act.outcome_of_ok tracks.contains.load_eq
    simp only [Registry.loadSettings, Act.outcome_mapError, inMemory, registry, settingsStore,
      outcome_guarded, Act.outcome_within, conditions, time]
    cases b.conditions.refusesLoad b.time with
    | some reason => exact ⟨rfl, files, rfl, tracks⟩
    | none =>
        have file : f.store.load.outcome ((b.withMedium files).called .load).medium =
          (.ok b.medium.document, files) := loads
        simp only [file]
        exact ⟨congrArg Except.ok b.medium.document.mapTokens_id.symm, files, rfl, tracks,
          tracks.contains.restorable⟩
  save s lists _ := by
    rw [Settings.mapTokens_id]
    refine Act.Matches.mapError (matches_guarded_alike .save Conditions.refusesSave ?_) _
    rintro b _ ⟨files, rfl, tracks, restorable⟩
    obtain ⟨files', saves, still⟩ := tracks.save (restorable.withConnections lists)
    have file : (f.store.save (s.withConnections lists)).outcome (b.withMedium files).medium =
      (.ok (), files') := Act.outcome_of_ok saves
    simp only [Act.outcome_within, file]
    exact ⟨rfl, files', rfl, still, restorable⟩
  forget := by
    rintro s b b' ⟨files, same, tracks, -⟩
    exact ⟨files, same, tracks⟩

/-! ## Dialogues -/

/-- **An outcome with the file is the one in memory.**  The same is answered, announced and
kept as secrets, by the same calls; the file is read as the document in memory, which changes
nothing; no temporary file is there, unless one was there before and nothing was saved; and no
file is there but the settings file and those that were there before, so no backup either. -/
structure SettingsFile.Mirrors (f : SettingsFile) (before : Files)
    (o : Except ConnectionError Reply × Bench MemorySettings)
    (o' : Except ConnectionError Reply × Bench Files) : Prop where
  reply : o'.1 = o.1
  events : o'.2.events = o.2.events
  secrets : o'.2.secrets = o.2.secrets
  calls : o'.2.calls = o.2.calls
  load : f.load o'.2.medium = .ok o.2.document o'.2.medium
  temporary : o'.2.medium.isPresent f.temporaryPath →
    before.isPresent f.temporaryPath ∧ o.2.medium.saves = 0
  made : ∀ place content, o'.2.medium.at? place = some (.file content) →
    place = f.path.place ∨ before.at? place = some (.file content)
  kept : ∀ place content, before.at? place = some (.file content) →
    place = f.path.place ∨ place = f.temporaryPath.place ∨
      o'.2.medium.at? place = some (.file content)

theorem SettingsFile.mirrors_of_alike {f : SettingsFile} {before : Files}
    {o : Except ConnectionError Reply × Bench MemorySettings}
    {o' : Except ConnectionError Reply × Bench Files} (reply : o'.1 = o.1)
    (alike : Alike (f.Tracks before) o.2 o'.2) : f.Mirrors before o o' := by
  obtain ⟨answer, host⟩ := o
  obtain ⟨answer', host'⟩ := o'
  obtain ⟨files, rfl, tracks⟩ := alike
  refine ⟨reply, rfl, rfl, rfl, tracks.contains.load_eq, fun there => ?_, tracks.made,
    tracks.kept⟩
  have unsaved : host.medium.saves = 0 := by
    by_contra saved
    exact Bool.false_ne_true ((tracks.saved saved).symm.trans there)
  exact ⟨tracks.unsaved unsaved ▸ there, unsaved⟩

/-- **Settings in a file are settings in memory.**  A file is read as a document, and saving to
it does not fail.  Then every dialogue with the file has the outcomes of the same dialogue
with the document in memory, whatever else is refused. -/
theorem Registry.dialogue_mirrors (f : SettingsFile) (cloudDomain : String)
    {files files' : Files} {s s' : Settings} (contains : f.Contains files s)
    (saves : f.save s' files = .ok () files') (secrets : SecretTable) (conditions : Conditions)
    (listener : Listener) (ops : List Operation) :
    List.Forall₂ (f.Mirrors files)
      ((inMemory cloudDomain).dialogue ops (.fresh (.of s) secrets conditions listener))
      ((registry f.store cloudDomain).dialogue ops
        (.fresh files secrets conditions listener)) := by
  have alike : Alike (f.Tracks files) (.fresh (.of s) secrets conditions listener)
      (.fresh files secrets conditions listener) :=
    ⟨files, rfl, SettingsFile.tracks_of contains (SettingsFile.savable_of_save saves)⟩
  have runs := (f.matches_tracks files cloudDomain).dialogue ops alike
  rw [Operation.mapTokens_id, List.map_id] at runs
  refine runs.imp fun o o' ⟨reply, alike⟩ => SettingsFile.mirrors_of_alike ?_ alike
  rw [reply, Reply.mapTokens_id]
  cases o.1 <;> rfl

/-- The settings file has a member of its own and a connection with a plain token; its
directory has another file. -/
theorem Registry.dialogue_mirrors_migrating :
    let f : SettingsFile := ⟨⟨["home", "settings.json"], false⟩, "1"⟩
    let text :=
      "\x7b\"z\":[-1],\"connectedMode\":\x7b\"connections\":" ++
        "\x7b\"sonarcloud\":[\x7b\"token\":\"t\"\x7d]\x7d\x7d\x7d"
    let files : Files :=
      [(["home"], .directory), (["home", "settings.json"], .file text.toUTF8),
      (["home", "notes"], .file "".toUTF8)]
    let s : Settings := ⟨⟨[], [{ Connection.blank with token := some "t" }], []⟩, [],
      [("z", .array [.number (.int (-1))])]⟩
    let ops : List Operation := [.hasUnmigrated, .migrate,
      .edit (.submit ⟨some "a", some "http://a.example", none, some false, false, some "u"⟩),
      .edit (.remove "a" .selfHosted), .list .cloud]
    f.Contains files s ∧ (∃ files', f.save .blank files = .ok () files') ∧
      List.Forall₂ (f.Mirrors files)
        ((inMemory "codescan.io").dialogue ops
          (.fresh (.of s) [] (.calm fun _ => false) .present))
        ((registry f.store "codescan.io").dialogue ops
          (.fresh files [] (.calm fun _ => false) .present)) := by
  intro f text files s ops
  have read : Settings.form.read Json.nestingLimit text.toList = .ok (s, []) := by
    unfold text
    rw [String.toList_append, String.toList_ofList, String.toList_ofList]
    rfl
  have parsed : Settings.parse text = .ok s := by
    rw [Settings.parse, Json.Form.parse, Json.parse, read]
    rfl
  have whole : s.WholeNumbers := by
    refine ⟨fun m none => (List.not_mem_nil none).elim, fun m there => ?_⟩
    rw [List.mem_singleton.1 there]
    refine .array fun v there => ?_
    rw [List.mem_singleton.1 there]
    exact .int (by decide)
  have contains : f.Contains files s := .document (Files.readText_of_read rfl) parsed whole
  have saves : f.save .blank files = .ok () (f.saved .blank files) := by
    unfold f
    rfl
  exact ⟨contains, ⟨_, saves⟩, dialogue_mirrors f "codescan.io" contains saves [] _ .present ops⟩

end ServerConnections
