import ServerConnections.Proofs.Settings.Backup

/-!
# A save is done or not

A save has three steps, each of which may fail, and what a failing one leaves is not undone.
Nevertheless there are only two ends.  Either the settings file holds the document and the
temporary file is gone, or the settings file is what it was.  All other files are spared in
both cases; directories may have been made on the way to the settings file.

This rests on the names of the files.  The temporary file and a copy are named by replacing an
extension, so neither ever is the settings file.  They are two files, too, except where the
name is two dots and an extension: what is left of such a name without the extension leads to
the directory above, and is the path of both.  No file can be put there, so nothing is harmed.

* `Files.Spared` — what making directories may do to a place
* `Files.spared_of_makeDirectories` — it does no more
* `FilePath.place_withExtension_ne`, `FilePath.place_withExtension_eq_iff` — names
* `SettingsFile.SaveEnds` — the two ends of a save
* `SettingsFile.saveEnds_and_places` — a save ends so, and its files are three files
* `SettingsFile.temporaryPath_eq_backupPath` — a name for which they are two
-/

namespace ServerConnections

/-! ## Making directories -/

/-- An action leaves a state, whether it succeeds or fails. -/
def Act.Leaves {σ ε α : Type} (x : Act σ ε α) (s s' : σ) : Prop :=
  (∃ a, x s = .ok a s') ∨ ∃ e, x s = .error e s'

namespace Files

variable {files files' : Files} {p q : FilePath} {start place : FilePlace}
    {names : List String}

/-- The places on the way along some names. -/
def IsOnWay (start : FilePlace) (names : List String) (place : FilePlace) : Prop :=
  ∃ front, front <+: names ∧ place = front.foldl step start

theorem isOnWay_first (start : FilePlace) (name : String) (rest : List String) :
    IsOnWay start (name :: rest) (step start name) :=
  ⟨[name], List.cons_prefix_cons.2 ⟨rfl, List.nil_prefix⟩, rfl⟩

theorem IsOnWay.cons {name : String} (onWay : IsOnWay (step start name) names place) :
    IsOnWay start (name :: names) place := by
  obtain ⟨front, before, rfl⟩ := onWay
  exact ⟨name :: front, List.cons_prefix_cons.2 ⟨rfl, before⟩, rfl⟩

/-- **A place is spared**: it is as it was, or a directory was made there, where nothing was,
on the way along some names. -/
def Spared (start : FilePlace) (names : List String) (files files' : Files)
    (place : FilePlace) : Prop :=
  files'.at? place = files.at? place ∨
    IsOnWay start names place ∧ files.at? place = none ∧ files'.at? place = some .directory

theorem Spared.cons {name : String}
    (spared : Spared (step start name) names files files' place) :
    Spared start (name :: names) files files' place :=
  spared.imp_right fun ⟨onWay, made⟩ => ⟨onWay.cons, made⟩

/-- Directories are made on the way, whether all of them can be made or not. -/
theorem spared_of_makeFrom (left : (makeFrom start names).Leaves files files')
    (place : FilePlace) : Spared start names files files' place := by
  induction names generalizing start files with
  | nil =>
      rcases left with ⟨_, ⟨⟩⟩ | ⟨_, ⟨⟩⟩
      exact .inl rfl
  | cons name rest ih =>
      rw [Act.Leaves, makeFrom_cons] at left
      split at left
      · rcases left with ⟨_, ⟨⟩⟩ | ⟨_, ⟨⟩⟩
        exact .inl rfl
      split at left
      · exact (ih left).cons
      · rcases left with ⟨_, ⟨⟩⟩ | ⟨_, ⟨⟩⟩
        exact .inl rfl
      · rename_i free
        have inside : step start name ≠ [] := ne_nil_of_at? (free ▸ nofun : files.at? _ ≠ _)
        have put := at?_put place .directory files inside
        by_cases here : place = step start name
        · -- Nothing else can happen to a directory that was made.
          subst here
          rw [if_pos rfl] at put
          rcases ih left with same | ⟨-, other, -⟩
          · exact .inr ⟨isOnWay_first start name rest, free, same.trans put⟩
          · rw [put] at other
            cases other
        · rw [if_neg here] at put
          have spared := ih left
          simp only [Spared, put] at spared
          exact Spared.cons spared

/-- **Making directories spares all places.** -/
theorem spared_of_makeDirectories (left : (makeDirectories p).Leaves files files')
    (place : FilePlace) : Spared [] p.names files files' place := by
  rw [makeDirectories] at left
  split at left
  · exact spared_of_makeFrom left place
  · rcases left with ⟨_, ⟨⟩⟩ | ⟨_, ⟨⟩⟩
    exact .inl rfl

/-- A renaming that fails changes nothing. -/
theorem eq_of_rename_error {fault : FileFault}
    (failed : rename p q files = .error fault files') :
    files' = files := by
  rw [rename] at failed
  split at failed
  · cases failed
    rfl
  · cases failed
    rfl
  split at failed
  · cases failed
    rfl
  split at failed
  · cases failed
    rfl
  split at failed
  · cases failed
    rfl
  · cases failed

end Files

/-! ## Names beside the settings file -/

namespace FilePath

variable {p : FilePath} {name : String}

/-- **A name of two dots and an extension**, with no slash behind it: without the extension it
leads to the directory above. -/
def LeadsAbove (p : FilePath) : Prop :=
  p.isDirectory = false ∧
    ∃ extension, p.fileName? = some (above ++ extension) ∧ '.' ∉ extension.toList

theorem nameWithExtension_eq_above_iff {slash : Bool} {extension : String}
    (down : name ≠ above)
    (filled : 1 < extension.length) :
    nameWithExtension slash name extension = above ↔
      slash = false ∧ ∃ old, name = above ++ old ∧ '.' ∉ old.toList := by
  constructor
  · intro up
    rcases eq : splitExtension name.toList with ⟨stem, hasExtension⟩
    simp only [nameWithExtension, eq] at up
    split at up
    · rename_i lost
      obtain ⟨⟨rfl, rfl⟩, rfl⟩ : (hasExtension = true ∧ stem = ['.']) ∧ slash = false := by
        simpa [down] using lost
      obtain ⟨old, chars, undotted⟩ := exists_of_splitExtension eq
      refine ⟨rfl, String.ofList old, String.toList_inj.1 ?_, by simpa using undotted⟩
      simpa [above] using chars
    · exact (append_ne_above _ filled up).elim
  · rintro ⟨rfl, old, rfl, undotted⟩
    have split : splitExtension (above ++ old).toList = (['.'], true) := by
      have dotted : ['.'] ≠ [] := List.cons_ne_nil _ _
      rw [String.toList_append]
      exact splitExtension_append dotted undotted
    rw [nameWithExtension, split]
    simp

section Places

variable (last : p.fileName? = some name) (down : name ≠ above)

include last

theorem names_eq_of_fileName? : p.names = p.directory.names ++ [name] :=
  (List.dropLast_append_getLast? name last).symm

theorem place_eq_step : p.place = Files.step p.directory.place name := by
  rw [place, names_eq_of_fileName? last, List.foldl_append]
  rfl

/-- The place of a path with another extension. -/
theorem place_withExtension_eq_step (extension : String) :
    (p.withExtension extension).place =
      Files.step p.directory.place (nameWithExtension p.isDirectory name extension) := by
  rw [withExtension_eq (names_eq_of_fileName? last), place, file, List.foldl_append]
  rfl

include down

/-- **A path with another extension is not the path of the same file**, where the extension has
a dot in it. -/
theorem place_withExtension_ne {extension : String} (dotted : '.' ∈ extension.toList) :
    (p.withExtension extension).place ≠ p.place := by
  rw [place_withExtension_eq_step last, place_eq_step last, Files.step, Files.step,
    if_neg down]
  split
  · intro same
    have lengths := congrArg List.length same
    simp only [List.length_dropLast, List.length_append, List.length_singleton] at lengths
    omega
  · rename_i beside
    intro same
    have names := List.singleton_injective (List.append_cancel_left same)
    exact nameWithExtension_ne beside dotted names

/-- **Two extensions name two files**, unless the path leads above without its own one. -/
theorem place_withExtension_eq_iff {first second : String} (long : 1 < first.length)
    (long' : 1 < second.length) (other : first ≠ second) :
    (p.withExtension first).place = (p.withExtension second).place ↔ p.LeadsAbove := by
  have above_iff : ∀ {extension : String}, 1 < extension.length →
      (nameWithExtension p.isDirectory name extension = above ↔ p.LeadsAbove) := by
    intro extension long
    rw [nameWithExtension_eq_above_iff down long, LeadsAbove, last]
    simp only [Option.some.injEq]
  rw [place_withExtension_eq_step last, place_withExtension_eq_step last, Files.step,
    Files.step]
  by_cases leads : p.LeadsAbove
  · rw [if_pos ((above_iff long).2 leads), if_pos ((above_iff long').2 leads)]
    exact iff_of_true rfl leads
  · have beside := (above_iff long).not.2 leads
    rw [if_neg beside, if_neg ((above_iff long').not.2 leads)]
    refine iff_of_false (fun same => other ?_) leads
    exact eq_of_nameWithExtension_eq beside
      (List.singleton_injective (List.append_cancel_left same))

end Places

end FilePath

/-! ## The two ends of a save -/

namespace SettingsFile

variable {f : SettingsFile} {files files' : Files} {s : Settings}

/-- What a save may do to a place other than those of its own files. -/
def Spares (f : SettingsFile) (files files' : Files) (place : FilePlace) : Prop :=
  Files.Spared [] f.path.directory.names files files' place

/-- **The two ends of a save**: the document is in the settings file and the temporary file is
gone, or the save failed, and only the temporary file may have changed. -/
inductive SaveEnds (f : SettingsFile) (s : Settings) (files : Files) :
    EStateM.Result StorageFault Files Unit → Prop
  | replaced {files' : Files} :
      Files.read f.path files' = .ok s.savedText.toUTF8 files' →
        f.temporaryPath.place ≠ f.path.place → files'.isPresent f.temporaryPath = false →
          (∀ place, place ≠ f.path.place → place ≠ f.temporaryPath.place →
            f.Spares files files' place) →
              SaveEnds f s files (.ok () files')
  | refused {fault : StorageFault} {files' : Files} :
      (∀ place, place ≠ f.temporaryPath.place → f.Spares files files' place) →
        SaveEnds f s files (.error fault files')

/-- A save that succeeds has replaced the settings file. -/
theorem saveEnds_of_save (saves : f.save s files = .ok () files') :
    f.SaveEnds s files (.ok () files') := by
  obtain ⟨files₁, made, ready⟩ := savable_of_save saves
  obtain rfl : f.saved s files₁ = files' := by
    rw [ready.save_of_makeDirectories made s] at saves
    injection saves
  refine .replaced (ready.read_saved s) ready.place_ne ?_ fun place other other' => ?_
  · rw [Files.isPresent, (ready.saved s).temporary.place?_eq]
    simp only [ready.at?_saved, ready.place_ne, if_false, if_true, Option.isSome_none]
  · have spared := Files.spared_of_makeDirectories (.inl ⟨(), made⟩) place
    rw [Spares, Files.Spared, ready.at?_saved, if_neg other, if_neg other']
    exact spared

/-- A save fails in one of its three steps. -/
theorem steps_of_save_error {fault : StorageFault}
    (failed : f.save s files = .error fault files') :
    (∃ e, Files.makeDirectories f.path.directory files = .error e files') ∨
      ∃ files₁, Files.makeDirectories f.path.directory files = .ok () files₁ ∧
        ((∃ e, Files.write f.temporaryPath s.savedText.toUTF8 files₁ = .error e files') ∨
          ∃ files₂, Files.write f.temporaryPath s.savedText.toUTF8 files₁ = .ok () files₂ ∧
            ∃ e, Files.rename f.temporaryPath f.path files₂ = .error e files') := by
  rw [save, Act.mapError_eq_error_iff] at failed
  obtain ⟨e, failed, -⟩ := failed
  simp only [Act.bind_eq_error_iff] at failed
  rcases failed with failed | ⟨_, files₁, made, failed | ⟨_, files₂, written, failed⟩⟩
  · exact .inl ⟨e, failed⟩
  · exact .inr ⟨files₁, made, .inl ⟨e, failed⟩⟩
  · exact .inr ⟨files₁, made, .inr ⟨files₂, written, e, failed⟩⟩

/-- A save that fails has changed no other file than the temporary one. -/
theorem saveEnds_of_save_error {fault : StorageFault}
    (failed : f.save s files = .error fault files') :
    f.SaveEnds s files (.error fault files') := by
  refine .refused fun place other => ?_
  rcases steps_of_save_error failed with ⟨e, unmade⟩ | ⟨files₁, made, rest⟩
  · exact Files.spared_of_makeDirectories (.inr ⟨e, unmade⟩) place
  have spared := Files.spared_of_makeDirectories (.inl ⟨(), made⟩) place
  rcases rest with ⟨e, unwritten⟩ | ⟨files₂, written, e, unnamed⟩
  · exact Files.eq_of_write_error unwritten ▸ spared
  · obtain ⟨-, temporary, rfl⟩ := temporary_of_write made written
    obtain rfl := Files.eq_of_rename_error unnamed
    rw [Spares, Files.Spared, Files.at?_put _ _ _ temporary.place_ne_nil, if_neg other]
    exact spared

/-- **A save is done or not**, and the files that it and a backup have to do with are three,
unless the name of the settings file leads above without its extension. -/
theorem saveEnds_and_places {name : String} (last : f.path.fileName? = some name)
    (down : name ≠ FilePath.above) (files : Files) (s : Settings) :
    f.SaveEnds s files (f.save s files) ∧
      f.temporaryPath.place ≠ f.path.place ∧ f.backupPath.place ≠ f.path.place ∧
        (f.temporaryPath.place = f.backupPath.place ↔ f.path.LeadsAbove) := by
  refine ⟨?_, ?_, ?_, ?_⟩
  · cases ends : f.save s files with
    | ok _ files' => exact saveEnds_of_save ends
    | error fault files' => exact saveEnds_of_save_error ends
  · exact FilePath.place_withExtension_ne last down (by decide)
  · exact FilePath.place_withExtension_ne last down (by simp)
  · refine FilePath.place_withExtension_eq_iff last down (by decide) ?_ ?_
    · rw [String.length_append]
      exact Nat.lt_add_right _ (by decide)
    · intro same
      -- The extensions differ in the character behind the first dot.
      have chars := congrArg String.toList same
      simp at chars

/-- A save that fails at the temporary file, after a directory was made. -/
theorem saveEnds_and_places_refused :
    let f : SettingsFile := ⟨⟨["home", "..", "settings.json"], false⟩, "20240229_235959"⟩
    let files : Files :=
      [(["settings.json"], .file "old".toUTF8), (["settings.json.tmp"], .directory)]
    f.path.fileName? = some "settings.json" ∧ "settings.json" ≠ FilePath.above ∧
      f.SaveEnds .blank files (f.save .blank files) ∧
        f.temporaryPath.place ≠ f.path.place ∧ f.backupPath.place ≠ f.path.place ∧
          f.temporaryPath.place ≠ f.backupPath.place := by
  intro f files
  have last : f.path.fileName? = some "settings.json" := rfl
  have down : "settings.json" ≠ FilePath.above := by decide
  obtain ⟨ends, temporary, backup, clash⟩ := saveEnds_and_places last down files .blank
  refine ⟨last, down, ends, temporary, backup, clash.not.2 ?_⟩
  rintro ⟨-, extension, name, -⟩
  rw [last, Option.some.injEq] at name
  have chars := congrArg String.toList name
  simp [FilePath.above] at chars

/-- **The temporary file and the copy have one path**, that of the directory above. -/
theorem temporaryPath_eq_backupPath :
    let f : SettingsFile := ⟨⟨["..x"], false⟩, "20240229_235959"⟩
    f.path.fileName? = some "..x" ∧ "..x" ≠ FilePath.above ∧
      f.temporaryPath = ⟨[FilePath.above], false⟩ ∧ f.backupPath = f.temporaryPath := by
  decide

/-- Under a name that leads above nothing is ever saved. -/
theorem save_ne_ok_of_leadsAbove (leads : f.path.LeadsAbove) :
    f.save s files ≠ .ok () files' := by
  intro saves
  obtain ⟨files₁, -, ready⟩ := savable_of_save saves
  obtain ⟨name, names_eq, -⟩ := ready.file.names_eq
  obtain ⟨down, -⟩ := ready.file.place_eq names_eq
  obtain ⟨beside, -⟩ := FilePath.place_withExtension names_eq ready.temporary
  refine beside ((FilePath.nameWithExtension_eq_above_iff down (by decide)).2 ?_)
  obtain ⟨isFile, extension, last, undotted⟩ := leads
  rw [FilePath.fileName?, names_eq, List.getLast?_concat, Option.some.injEq] at last
  exact ⟨isFile, extension, last, undotted⟩

end SettingsFile

end ServerConnections
