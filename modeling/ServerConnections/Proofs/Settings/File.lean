import ServerConnections.Proofs.Action
import ServerConnections.Proofs.Files.Admits
import ServerConnections.Proofs.Settings.RoundTrip
import ServerConnections.Settings.File

/-!
# A document that was saved is loaded

A save makes the directories on the way, writes the document to a temporary file beside
the settings file, and gives that file the name of the settings file.  If this succeeds
once, it succeeds with every document and as often as one likes: the first save has found
or made all that the next one needs, and it leaves the settings file, no temporary file,
and everything else as it was.

What is in the file then is the text of the document, which is no blank text, and which is
read as the document again if the document is restorable.

* `SettingsFile.Savable`, `SettingsFile.savable_of_save` — saving succeeds
* `SettingsFile.Ready.at?_saved` — what a save leaves
* `SettingsFile.Contains` — what a file is read as
* `SettingsFile.Ready.contains_saved` — what was saved is in the file
-/

namespace ServerConnections

open Json

/-! ## Texts of documents -/

/-- A document is given in braces, so its text is not blank. -/
theorem Settings.isBlankText_of_parse {text : String} {s : Settings}
    (parsed : Settings.parse text = .ok s) : Text.isBlankText text = false := by
  have brace : '{' ∈ text.toList := by
    rw [parse, Form.parse, Json.parse] at parsed
    split at parsed
    · cases parsed
    rename_i read
    obtain ⟨_, entered, -⟩ := Form.map_read_eq_ok read
    change record.readKeeping nestingLimit text.toList = _ at entered
    rw [Record.readKeeping] at entered
    split at entered
    · cases entered
    rename_i c rest begins
    have there : c ∈ text.toList :=
      (List.dropWhile_sublist _).subset (begins ▸ .head rest : c ∈ skipBlanks text.toList)
    split at entered
    · rename_i brace
      exact brace ▸ there
    · cases entered
  rw [Text.isBlankText, List.all_eq_false]
  exact ⟨'{', brace, by decide⟩

theorem fromUTF8?_toUTF8 (s : String) : String.fromUTF8? s.toUTF8 = some s := by
  have valid : s.toUTF8.IsValidUTF8 := s.isValidUTF8
  rw [String.fromUTF8?, dif_pos valid]
  rfl

theorem Files.readText_of_read {p : FilePath} {text : String} {files : Files}
    (read : Files.read p files = .ok text.toUTF8 files) :
    Files.readText p files = .ok text files := by
  simp only [readText, bind, EStateM.bind, read, fromUTF8?_toUTF8]
  rfl

/-! ## Names beside the settings file -/

namespace FilePath

theorem eq_of_splitExtension {name stem : List Char}
    (split : splitExtension name = (stem, false)) :
    stem = name := by
  unfold splitExtension at split
  split at split
  · split at split <;> simp_all
  · simp_all

/-- An extension has no dot in it. -/
theorem exists_of_splitExtension {name stem : List Char}
    (split : splitExtension name = (stem, true)) :
    ∃ extension, name = stem ++ '.' :: extension ∧ '.' ∉ extension := by
  have parts := List.takeWhile_append_dropWhile (p := (· != '.')) (l := name.reverse)
  unfold splitExtension at split
  rw [List.span_eq_takeWhile_dropWhile] at split
  split at split
  · rename_i front dot before eq
    obtain ⟨rfl, rest⟩ := Prod.mk.inj eq
    have isDot : dot = '.' := by
      have stop := List.head?_dropWhile_not (· != '.') name.reverse
      rw [rest] at stop
      simpa using stop
    split at split
    · simp at split
    · obtain ⟨rfl, -⟩ := Prod.mk.inj split
      refine ⟨(name.reverse.takeWhile (· != '.')).reverse, ?_, fun there => ?_⟩
      · rw [rest, isDot] at parts
        have reversed := congrArg List.reverse parts
        simpa using reversed.symm
      · have other := List.all_eq_true.1 List.all_takeWhile '.' (List.mem_reverse.1 there)
        simp at other
  · simp at split

/-- A name with an extension that has a dot in it is another name. -/
theorem nameWithExtension_ne {slash : Bool} {name extension : String}
    (down : nameWithExtension slash name extension ≠ above) (dotted : '.' ∈ extension.toList) :
    nameWithExtension slash name extension ≠ name := by
  intro same
  have chars := congrArg String.toList same
  rcases eq : splitExtension name.toList with ⟨stem, hasExtension⟩
  simp only [nameWithExtension, eq] at chars down
  split at chars
  · rename_i up
    rw [if_pos up] at down
    exact down rfl
  · simp only [String.toList_append, String.toList_ofList] at chars
    cases hasExtension with
    | true =>
        obtain ⟨old, split, undotted⟩ := exists_of_splitExtension eq
        rw [split, List.append_assoc] at chars
        have tails := List.append_cancel_left chars
        have last : extension.toList = old := by simpa using tails
        exact undotted (last ▸ dotted)
    | false =>
        rw [eq_of_splitExtension eq] at chars
        have lengths := congrArg List.length chars
        simp at lengths

/-- The name with an extension tells the extension. -/
theorem eq_of_nameWithExtension_eq {slash : Bool} {name first second : String}
    (down : nameWithExtension slash name first ≠ above)
    (same : nameWithExtension slash name first = nameWithExtension slash name second) :
    first = second := by
  have chars := congrArg String.toList same
  rcases eq : splitExtension name.toList with ⟨stem, hasExtension⟩
  simp only [nameWithExtension, eq] at chars down
  split at chars
  · rename_i up
    rw [if_pos up] at down
    exact (down rfl).elim
  · simp only [String.toList_append, String.toList_ofList] at chars
    exact String.toList_inj.1 (List.append_cancel_left chars)

section WithExtension

variable {p : FilePath} {name : String} (names_eq : p.names = p.directory.names ++ [name])
  (extension : String)

include names_eq

/-- A path with another extension is in the same directory. -/
theorem withExtension_eq :
    p.withExtension extension =
      p.directory.file (nameWithExtension p.isDirectory name extension) := by
  have last : p.fileName? = some name := by
    rw [fileName?, names_eq, List.getLast?_concat]
  rw [withExtension, last]

theorem directory_withExtension : (p.withExtension extension).directory = p.directory := by
  rw [withExtension_eq names_eq]
  simp [directory, file]

theorem isDirectory_withExtension : (p.withExtension extension).isDirectory = false := by
  rw [withExtension_eq names_eq]
  rfl

theorem names_withExtension : (p.withExtension extension).names =
    (p.withExtension extension).directory.names ++
      [nameWithExtension p.isDirectory name extension] := by
  rw [directory_withExtension names_eq, withExtension_eq names_eq]
  rfl

variable {extension}

/-- Where a path with another extension admits a file, the file is beside the other one. -/
theorem place_withExtension {files : Files}
    (admits : files.Admits (p.withExtension extension)) :
    nameWithExtension p.isDirectory name extension ≠ above ∧
      (p.withExtension extension).place =
        p.directory.place ++ [nameWithExtension p.isDirectory name extension] := by
  have place := admits.place_eq (names_withExtension names_eq extension)
  rwa [directory_withExtension names_eq] at place

end WithExtension

end FilePath

/-! ## Saving -/

namespace SettingsFile

variable {f : SettingsFile} {files files' : Files} {s : Settings}

/-- The settings file and the temporary file can be put where they belong. -/
structure Ready (f : SettingsFile) (files : Files) : Prop where
  file : files.Admits f.path
  temporary : files.Admits f.temporaryPath

/-- The temporary file is in the directory of the settings file. -/
theorem exists_temporaryPath_eq (names : f.path.names ≠ []) : ∃ name,
    f.path.names = f.path.directory.names ++ [name] ∧
      f.temporaryPath = f.path.directory.file
        (FilePath.nameWithExtension f.path.isDirectory name "json.tmp") := by
  cases last : f.path.fileName? with
  | none => exact (names (List.getLast?_eq_none_iff.1 last)).elim
  | some name =>
      have names_eq : f.path.names = f.path.directory.names ++ [name] :=
        (List.dropLast_append_getLast? name last).symm
      exact ⟨name, names_eq, FilePath.withExtension_eq names_eq "json.tmp"⟩

theorem directory_temporaryPath (names : f.path.names ≠ []) :
    f.temporaryPath.directory = f.path.directory := by
  obtain ⟨name, names_eq, -⟩ := exists_temporaryPath_eq names
  exact FilePath.directory_withExtension names_eq "json.tmp"

/-- **The temporary file is another file.** -/
theorem Ready.place_ne (ready : f.Ready files) : f.temporaryPath.place ≠ f.path.place := by
  obtain ⟨name, names_eq, -⟩ := ready.file.names_eq
  obtain ⟨-, place⟩ := ready.file.place_eq names_eq
  obtain ⟨down, temporary⟩ := FilePath.place_withExtension names_eq ready.temporary
  intro equal
  have names := List.append_cancel_left (temporary.symm.trans (equal.trans place))
  exact FilePath.nameWithExtension_ne down (by decide) (List.singleton_injective names)

/-- The tree after a save. -/
def saved (f : SettingsFile) (s : Settings) (files : Files) : Files :=
  ((files.put f.temporaryPath.place (.file s.savedText.toUTF8)).remove f.temporaryPath.place).put
    f.path.place (.file s.savedText.toUTF8)

/-- **A save changes the settings file and the temporary file**, which is gone afterwards. -/
theorem Ready.at?_saved (ready : f.Ready files) (s : Settings) (q : FilePlace) :
    (f.saved s files).at? q =
      if q = f.path.place then some (.file s.savedText.toUTF8)
      else if q = f.temporaryPath.place then none else files.at? q := by
  rw [saved, Files.at?_put _ _ _ ready.file.place_ne_nil,
    Files.at?_remove _ _ ready.temporary.place_ne_nil,
    Files.at?_put _ _ _ ready.temporary.place_ne_nil]
  split
  · rfl
  · split <;> rfl

theorem Ready.saved (ready : f.Ready files) (s : Settings) : f.Ready (f.saved s files) := by
  have directories : ∀ q, (f.saved s files).at? q = some .directory ↔
      files.at? q = some .directory := by
    intro q
    rw [ready.at?_saved]
    split
    · rename_i here
      exact iff_of_false nofun (here ▸ ready.file.free)
    split
    · rename_i here
      exact iff_of_false nofun (here ▸ ready.temporary.free)
    · exact Iff.rfl
  exact ⟨ready.file.mono directories, ready.temporary.mono directories⟩

/-- A save is three steps. -/
theorem save_eq_ok_iff : f.save s files = .ok () files' ↔ ∃ files₁ files₂,
    Files.makeDirectories f.path.directory files = .ok () files₁ ∧
      Files.write f.temporaryPath s.savedText.toUTF8 files₁ = .ok () files₂ ∧
        Files.rename f.temporaryPath f.path files₂ = .ok () files' := by
  simp only [save, Act.mapError_eq_ok_iff, Act.bind_eq_ok_iff]
  constructor
  · rintro ⟨⟨⟩, files₁, made, ⟨⟩, files₂, written, renamed⟩
    exact ⟨files₁, files₂, made, written, renamed⟩
  · rintro ⟨files₁, files₂, made, written, renamed⟩
    exact ⟨(), files₁, made, (), files₂, written, renamed⟩

/-- The directories are there already. -/
theorem Ready.makeDirectories_eq (ready : f.Ready files) :
    Files.makeDirectories f.path.directory files = .ok () files := by
  have valid : Files.hasValidNames f.path.directory = true := by
    refine List.all_eq_true.2 fun name there => ?_
    exact List.all_eq_true.1 ready.file.valid name (List.dropLast_subset _ there)
  rw [Files.makeDirectories, if_pos valid]
  exact Files.makeFrom_of_leads ready.file.leads

/-- Where all is ready, a save succeeds. -/
theorem Ready.save_eq (ready : f.Ready files) (s : Settings) :
    f.save s files = .ok () (f.saved s files) := by
  have directories := ready.temporary.at?_put_eq_directory s.savedText.toUTF8
  refine save_eq_ok_iff.2 ⟨files, _, ready.makeDirectories_eq,
    Files.write_of_admits ready.temporary _, ?_⟩
  refine Files.rename_of_admits (ready.temporary.mono directories)
    (ready.file.mono directories) ?_
  rw [Files.at?_put _ _ _ ready.temporary.place_ne_nil, if_pos rfl]

/-- **Saving succeeds**: the directories on the way are there or can be made, and the files
can be put into them. -/
def Savable (f : SettingsFile) (files : Files) : Prop :=
  ∃ files₁, Files.makeDirectories f.path.directory files = .ok () files₁ ∧ f.Ready files₁

theorem Ready.savable (ready : f.Ready files) : f.Savable files :=
  ⟨files, ready.makeDirectories_eq, ready⟩

theorem names_ne_nil_of_write {content : ByteArray}
    (written : Files.write f.temporaryPath content files = .ok () files') :
    f.path.names ≠ [] := by
  -- Without a name the path of the temporary file is the same one, and leads to the root.
  intro root
  have same : f.temporaryPath = f.path := by
    rw [temporaryPath, FilePath.withExtension, FilePath.fileName?, root]
    rfl
  have found : files.place? f.path = .ok [] := by
    simp [Files.place?, Files.hasValidNames, root, Files.follow, Files.at?_nil]
  rw [same, Files.write, found] at written
  cases written

/-- **Where the directories could be made and the temporary file written**, its path admits a
file, and that is all that was written. -/
theorem temporary_of_write {files₁ files₂ : Files} {content : ByteArray}
    (made : Files.makeDirectories f.path.directory files = .ok () files₁)
    (written : Files.write f.temporaryPath content files₁ = .ok () files₂) :
    files₁.Leads [] f.path.directory.names ∧ files₁.Admits f.temporaryPath ∧
      files₂ = files₁.put f.temporaryPath.place (.file content) := by
  have leads : files₁.Leads [] f.path.directory.names := by
    rw [Files.makeDirectories] at made
    split at made
    · exact (Files.leads_of_makeFrom made).1
    · cases made
  have names := names_ne_nil_of_write written
  obtain ⟨name, names_eq, -⟩ := exists_temporaryPath_eq names
  have temporary : files₁.Admits f.temporaryPath :=
    Files.admits_of_write written (FilePath.isDirectory_withExtension names_eq _)
      (by rwa [directory_temporaryPath names])
  refine ⟨leads, temporary, ?_⟩
  rw [Files.write_of_admits temporary] at written
  injection written with _ put
  exact put.symm

/-- **One save that succeeds is enough.** -/
theorem savable_of_save (saves : f.save s files = .ok () files') : f.Savable files := by
  obtain ⟨files₁, files₂, made, written, renamed⟩ := save_eq_ok_iff.1 saves
  obtain ⟨leads, temporary, rfl⟩ := temporary_of_write made written
  have directories := temporary.at?_put_eq_directory s.savedText.toUTF8
  have file := Files.admits_of_rename renamed (leads.mono fun q => (directories q).2)
  exact ⟨files₁, made, file.mono fun q => (directories q).symm, temporary⟩

/-- **A save makes the directories on the way, and then it is as if they had been there.** -/
theorem Ready.save_of_makeDirectories {files₁ : Files} (ready : f.Ready files₁)
    (made : Files.makeDirectories f.path.directory files = .ok () files₁) (s : Settings) :
    f.save s files = .ok () (f.saved s files₁) := by
  have again := ready.makeDirectories_eq
  obtain ⟨files₂, files₃, stay, written, renamed⟩ := save_eq_ok_iff.1 (ready.save_eq s)
  obtain rfl : files₁ = files₂ := by
    rw [again] at stay
    injection stay
  exact save_eq_ok_iff.2 ⟨files₁, files₃, made, written, renamed⟩

theorem Savable.save (savable : f.Savable files) (s : Settings) : ∃ files₁,
    f.Ready files₁ ∧ f.save s files = .ok () (f.saved s files₁) ∧
      ∀ q, files₁.at? q = files.at? q ∨
        files.at? q = none ∧ files₁.at? q = some .directory := by
  obtain ⟨files₁, made, ready⟩ := savable
  refine ⟨files₁, ready, ready.save_of_makeDirectories made s, ?_⟩
  rw [Files.makeDirectories] at made
  split at made
  · exact (Files.leads_of_makeFrom made).2
  · cases made

/-! ## Loading -/

/-- **What a file is read as**: the document in it, or the blank one if it is blank or not
there.  The numbers of the document are integers. -/
inductive Contains (f : SettingsFile) (files : Files) : Settings → Prop
  | document {text : String} {s : Settings} :
      Files.readText f.path files = .ok text files → Settings.parse text = .ok s →
        s.WholeNumbers → Contains f files s
  | blank {text : String} :
      Files.readText f.path files = .ok text files → Text.isBlankText text →
        Contains f files .blank
  | absent : Files.readText f.path files = .error .notFound files → Contains f files .blank

/-- **The document is loaded**, and nothing is changed by that. -/
theorem Contains.load_eq (contains : f.Contains files s) : f.load files = .ok s files := by
  cases contains with
  | document read parsed _ =>
      rw [load, read]
      simp only [SettingsFile.document, Settings.isBlankText_of_parse parsed, parsed,
        Bool.false_eq_true, if_false]
      rfl
  | blank read blank =>
      rw [load, read]
      simp only [SettingsFile.document, blank, if_true]
      rfl
  | absent read => rw [load, read]

theorem Contains.restorable (contains : f.Contains files s) : s.Restorable := by
  cases contains with
  | document _ parsed whole => exact Settings.restorable_of_parse parsed whole
  | blank | absent => exact Settings.restorable_blank

/-- The text of the document is read from the file after a save. -/
theorem Ready.read_saved (ready : f.Ready files) (s : Settings) :
    Files.read f.path (f.saved s files) = .ok s.savedText.toUTF8 (f.saved s files) := by
  have there : (f.saved s files).at? f.path.place = some (.file s.savedText.toUTF8) := by
    rw [ready.at?_saved, if_pos rfl]
  rw [Files.read, (ready.saved s).file.place?_eq]
  simp only [there]

/-- **What was saved is in the file.** -/
theorem Ready.contains_saved (ready : f.Ready files) (restorable : s.Restorable) :
    f.Contains (f.saved s files) s :=
  .document (Files.readText_of_read (ready.read_saved s)) restorable.parse.2 restorable.whole

end SettingsFile

end ServerConnections
