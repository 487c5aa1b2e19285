import Mathlib.Data.List.Infix
import ServerConnections.Files.Basic

/-!
# Paths that admit a file

Whether a file can be put under a path is decided by the directories on the way, by the
name at the end, and by there being no directory of that name.  `Files.Admits` collects
this.  It is what a successful write or renaming has found, and what makes the next one
succeed; it depends on the directories of the tree alone, so it is kept by everything that
changes only files.

The place of an admitted path is a name in a directory.  A path that ends in the name of
the directory above admits no file, because all directories above are there.

* `Files.Leads` — names that lead from one directory to the next
* `Files.leads_of_makeFrom`, `Files.makeFrom_of_leads` — directories that are made
* `Files.Admits` — a file can be put under a path
* `Files.admits_of_read` — this is so where a file is
* `Files.write_of_admits`, `Files.rename_of_admits` — what is done then
* `Files.Admits.place_eq` — the place of the file
-/

namespace ServerConnections

/-- The place that the names of a path lead to. -/
def FilePath.place (p : FilePath) : FilePlace := p.names.foldl Files.step []

namespace Files

variable {files files' : Files} {place : FilePlace} {names : List String} {p : FilePath}

/-! ## Directories on the way -/

/-- **All of some names lead from one directory to the next**, from a place on. -/
def Leads (files : Files) : FilePlace → List String → Prop
  | _, [] => True
  | place, name :: rest =>
    isTooLong name = false ∧ files.at? (step place name) = some .directory ∧
      files.Leads (step place name) rest

theorem at?_nil (files : Files) : files.at? [] = some .directory := rfl

theorem ne_nil_of_at? (other : files.at? place ≠ some .directory) : place ≠ [] :=
  fun root => other (root ▸ at?_nil files)

theorem Leads.mono (leads : files.Leads place names)
    (same : ∀ q, files.at? q = some .directory → files'.at? q = some .directory) :
    files'.Leads place names := by
  induction names generalizing place with
  | nil => trivial
  | cons name rest ih =>
      obtain ⟨short, there, leads⟩ := leads
      exact ⟨short, same _ there, ih leads⟩

/-- Behind names that lead on, the last name may be any that is not too long. -/
theorem follow_of_leads (leads : files.Leads place names) (name : String) :
    files.follow place (names ++ [name]) =
      if isTooLong name then .error .nameTooLong
      else .ok (step (names.foldl step place) name) := by
  induction names generalizing place with
  | nil => rfl
  | cons first rest ih =>
      obtain ⟨short, there, leads⟩ := leads
      have follows := ih leads
      cases tail : rest ++ [name] with
      | nil => exact absurd tail (by simp)
      | cons second others =>
          rw [tail] at follows
          rw [List.cons_append, tail, List.foldl_cons, ← follows]
          simp only [follow, short, there, Bool.false_eq_true, if_false]

theorem makeFrom_cons (place : FilePlace) (name : String) (rest : List String)
    (files : Files) :
    makeFrom place (name :: rest) files =
      if isTooLong name then .error .nameTooLong files
      else
        match files.at? (step place name) with
        | some .directory => makeFrom (step place name) rest files
        | some (.file _) =>
          .error (if rest.isEmpty then .alreadyExists else .notADirectory) files
        | none =>
            makeFrom (step place name) rest (files.put (step place name) .directory) := rfl

/-- **Directories that were made lead on.**  Nothing else is made. -/
theorem leads_of_makeFrom (made : makeFrom place names files = .ok () files') :
    files'.Leads place names ∧
      ∀ q, files'.at? q = files.at? q ∨
        files.at? q = none ∧ files'.at? q = some .directory := by
  induction names generalizing place files with
  | nil =>
      cases made
      exact ⟨trivial, fun q => .inl rfl⟩
  | cons name rest ih =>
      have stays : ∀ {files : Files}, files.at? (step place name) = some .directory →
          (∀ q, files'.at? q = files.at? q ∨
            files.at? q = none ∧ files'.at? q = some .directory) →
            files'.at? (step place name) = some .directory := by
        intro files there others
        rcases others (step place name) with same | ⟨free, -⟩
        · exact same.trans there
        · rw [there] at free
          cases free
      rw [makeFrom_cons] at made
      split at made
      · cases made
      rename_i short
      rw [Bool.not_eq_true] at short
      split at made
      · rename_i there
        obtain ⟨leads, others⟩ := ih made
        exact ⟨⟨short, stays there others, leads⟩, others⟩
      · cases made
      · rename_i free
        have inside : step place name ≠ [] := ne_nil_of_at? (free ▸ nofun : files.at? _ ≠ _)
        have put : ∀ q, (files.put (step place name) .directory).at? q =
            if q = step place name then some .directory else files.at? q :=
          fun q => at?_put q .directory files inside
        obtain ⟨leads, others⟩ := ih made
        have made : files'.at? (step place name) = some .directory :=
          stays (by rw [put, if_pos rfl]) others
        refine ⟨⟨short, made, leads⟩, fun q => ?_⟩
        by_cases here : q = step place name
        · exact .inr (here ▸ ⟨free, made⟩)
        · simpa only [put, here, if_false] using others q

/-- Where all directories are there, none is made. -/
theorem makeFrom_of_leads (leads : files.Leads place names) :
    makeFrom place names files = .ok () files := by
  induction names generalizing place with
  | nil => rfl
  | cons name rest ih =>
      obtain ⟨short, there, leads⟩ := leads
      rw [makeFrom_cons, if_neg (by simp [short]), there]
      exact ih leads

/-- What is above a directory that was led to is a directory, if this is so at the start. -/
theorem Leads.at?_of_prefix (leads : files.Leads place names)
    (above : ∀ q, q <+: place → files.at? q = some .directory) :
    ∀ q, q <+: names.foldl step place → files.at? q = some .directory := by
  induction names generalizing place with
  | nil => exact above
  | cons name rest ih =>
      obtain ⟨-, there, leads⟩ := leads
      refine ih leads fun q before => ?_
      rw [step] at before there
      split at before
      · exact above q (before.trans (List.dropLast_prefix place))
      · rename_i down
        rcases List.prefix_concat_iff.1 before with rfl | before
        · rwa [if_neg down] at there
        · exact above q before

/-! ## Admitted paths -/

/-- **A file can be put under a path.** -/
structure Admits (files : Files) (p : FilePath) : Prop where
  isFile : p.isDirectory = false
  valid : hasValidNames p = true
  names_eq : ∃ name, p.names = p.directory.names ++ [name] ∧ isTooLong name = false
  leads : files.Leads [] p.directory.names
  free : files.at? p.place ≠ some .directory

namespace Admits

/-- Only the directories of the tree matter. -/
theorem mono (admits : files.Admits p)
    (same : ∀ q, files'.at? q = some .directory ↔ files.at? q = some .directory) :
    files'.Admits p :=
  { admits with
    leads := admits.leads.mono fun q => (same q).2
    free := fun there => admits.free ((same _).1 there) }

theorem place?_eq (admits : files.Admits p) : files.place? p = .ok p.place := by
  obtain ⟨name, names_eq, short⟩ := admits.names_eq
  have follows := follow_of_leads admits.leads name
  rw [short, if_neg Bool.false_ne_true, ← names_eq] at follows
  rw [place?, if_pos admits.valid, follows, admits.isFile, FilePath.place, names_eq,
    List.foldl_append]
  rfl

theorem place_ne_nil (admits : files.Admits p) : p.place ≠ [] := ne_nil_of_at? admits.free

/-- **The place of the file is a name in a directory.** -/
theorem place_eq (admits : files.Admits p) {name : String}
    (names_eq : p.names = p.directory.names ++ [name]) :
    name ≠ FilePath.above ∧ p.place = p.directory.place ++ [name] := by
  have split : p.place = step p.directory.place name := by
    rw [FilePath.place, names_eq, List.foldl_append]
    rfl
  have above : files.at? p.directory.place.dropLast = some .directory :=
    admits.leads.at?_of_prefix (fun q before => List.prefix_nil.1 before ▸ at?_nil files) _
      (List.dropLast_prefix _)
  have down : name ≠ FilePath.above := by
    intro up
    refine admits.free ?_
    rwa [split, step, if_pos up]
  exact ⟨down, by rw [split, step, if_neg down]⟩

/-- A file that is put under an admitted path changes no directory. -/
theorem at?_put_eq_directory (admits : files.Admits p) (content : ByteArray) (q : FilePlace) :
    (files.put p.place (.file content)).at? q = some .directory ↔
      files.at? q = some .directory := by
  rw [Files.at?_put _ _ _ admits.place_ne_nil]
  split
  · rename_i here
    exact iff_of_false nofun (here ▸ admits.free)
  · exact Iff.rfl

end Admits

/-- What a successful search has found, if the directories lead on. -/
theorem admits_of_place? (found : files.place? p = .ok place) (isFile : p.isDirectory = false)
    (leads : files.Leads [] p.directory.names) (free : files.at? place ≠ some .directory) :
    files.Admits p := by
  rw [place?] at found
  split at found
  · rename_i valid
    cases last : p.names.getLast? with
    | none =>
        -- Without a name the path leads to the root.
        rw [List.getLast?_eq_none_iff] at last
        rw [last] at found
        simp only [follow, isFile] at found
        cases found
        exact (free (at?_nil files)).elim
    | some name =>
        have names_eq : p.names = p.directory.names ++ [name] :=
          (List.dropLast_append_getLast? name last).symm
        have follows := follow_of_leads leads name
        rw [← names_eq] at follows
        cases short : isTooLong name with
        | true =>
            rw [follows, if_pos short] at found
            cases found
        | false =>
            rw [follows, short, if_neg Bool.false_ne_true] at found
            simp only [isFile] at found
            cases found
            refine ⟨isFile, valid, ⟨name, names_eq, short⟩, leads, ?_⟩
            rwa [FilePath.place, names_eq, List.foldl_append]
  · cases found

/-- **Writing under an admitted path succeeds.** -/
theorem write_of_admits (admits : files.Admits p) (content : ByteArray) :
    write p content files = .ok () (files.put p.place (.file content)) := by
  rw [write, admits.place?_eq]
  dsimp only
  cases there : files.at? p.place with
  | none => simp [admits.isFile]
  | some entry =>
      cases entry with
      | directory => exact (admits.free there).elim
      | file _ => rfl

/-- A path that a file was written under admits one. -/
theorem admits_of_write {content : ByteArray} (written : write p content files = .ok () files')
    (isFile : p.isDirectory = false) (leads : files.Leads [] p.directory.names) :
    files.Admits p := by
  rw [write] at written
  split at written
  · cases written
  · rename_i found
    refine admits_of_place? found isFile leads fun there => ?_
    rw [there] at written
    cases written

/-- **Renaming to an admitted path succeeds.**  What was there is replaced. -/
theorem rename_of_admits {q : FilePath} (source : files.Admits p) (target : files.Admits q)
    {entry : FileEntry} (there : files.at? p.place = some entry) :
    rename p q files = .ok () ((files.remove p.place).put q.place entry) := by
  rw [rename, source.place?_eq, target.place?_eq]
  dsimp only
  rw [there]
  simp only [target.isFile, Bool.false_eq_true, if_false]
  split
  · exact (target.free ‹_›).elim
  · rfl

/-- A path that something was renamed to admits a file. -/
theorem admits_of_rename {q : FilePath} (renamed : rename p q files = .ok () files')
    (leads : files.Leads [] q.directory.names) : files.Admits q := by
  rw [rename] at renamed
  split at renamed
  · cases renamed
  · cases renamed
  rename_i found
  split at renamed
  · cases renamed
  split at renamed
  · cases renamed
  rename_i isFile
  rw [Bool.not_eq_true] at isFile
  refine admits_of_place? found isFile leads fun there => ?_
  rw [there] at renamed
  cases renamed

end Files

end ServerConnections
