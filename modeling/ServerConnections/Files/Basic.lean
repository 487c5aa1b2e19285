import ServerConnections.Action
import ServerConnections.Files.Path

/-!
# Files

A file tree below a root directory, and what can be done with it: reading and
writing a file, making directories, copying and renaming. Each operation succeeds
or fails with a `FileFault`, and one that fails changes nothing, except that
directories on the way may have been made.

Design notes: the tree is a flat list of the places that are occupied. A place is
the list of names that leads to it without going back; the root is the empty
list and always a directory.
-/

namespace ServerConnections

/-- What can go wrong in a file system, as far as it is told apart. -/
inductive FileFault where
  | notFound
  | isADirectory
  | notADirectory
  | alreadyExists
  | nameTooLong
  | invalidName
  | notARegularFile
  | notText
  | refused (reason : String)
deriving DecidableEq, Repr

/-- The text of a file fault. -/
def FileFault.message : FileFault → String
  | notFound => "entity not found"
  | isADirectory => "is a directory"
  | notADirectory => "not a directory"
  | alreadyExists => "entity already exists"
  | nameTooLong => "invalid filename"
  | invalidName => "file name contained an unexpected NUL byte"
  | notARegularFile =>
      "the source path is neither a regular file nor a symlink to a regular file"
  | notText => "stream did not contain valid UTF-8"
  | refused reason => reason

/-- What occupies a place. -/
inductive FileEntry where
  | file (content : ByteArray)
  | directory

/-- A place in a file tree. -/
abbrev FilePlace := List String

/-- A file tree: what occupies each place below the root. -/
abbrev Files := List (FilePlace × FileEntry)

namespace Files

/-- What is at a place. -/
def at? (files : Files) (place : FilePlace) : Option FileEntry :=
  if place = [] then some .directory else files.lookup place

/-- The tree with an entry at a place. -/
def put (place : FilePlace) (entry : FileEntry) : Files → Files
  | [] => [(place, entry)]
  | (p, e) :: rest =>
      if p = place then (place, entry) :: rest else (p, e) :: put place entry rest

/-- The tree with nothing at a place. -/
def remove (place : FilePlace) (files : Files) : Files :=
  files.filter fun p => p.1 != place

theorem lookup_cons (place p : FilePlace) (e : FileEntry) (rest : Files) :
    List.lookup place ((p, e) :: rest) = if place = p then some e else rest.lookup place := by
  by_cases h : place = p
  · simp [h]
  · simp [List.lookup_cons, h, beq_eq_false_iff_ne.2 h]

theorem lookup_put (place place' : FilePlace) (entry : FileEntry) (files : Files) :
    (files.put place entry).lookup place' =
      if place' = place then some entry else files.lookup place' := by
  induction files with
  | nil => simp [put, lookup_cons]
  | cons p rest ih =>
    obtain ⟨k, e⟩ := p
    by_cases hk : k = place
    · subst hk
      by_cases h : place' = k <;> simp [put, lookup_cons, h]
    · simp only [put, hk, if_false, lookup_cons, ih]
      grind

theorem remove_cons (place p : FilePlace) (e : FileEntry) (rest : Files) :
    remove place ((p, e) :: rest) =
      if p = place then remove place rest else (p, e) :: remove place rest := by
  by_cases h : p = place <;> simp [remove, h]

theorem lookup_remove (place place' : FilePlace) (files : Files) :
    (files.remove place).lookup place' =
      if place' = place then none else files.lookup place' := by
  induction files with
  | nil => simp [remove]
  | cons p rest ih =>
    obtain ⟨k, e⟩ := p
    rw [remove_cons, lookup_cons]
    by_cases hk : k = place
    · simp only [hk, if_true, ih]
      grind
    · simp only [hk, if_false, lookup_cons, ih]
      grind

/-- **An entry is seen at its place and nowhere else.** -/
theorem at?_put {place : FilePlace} (place' : FilePlace) (entry : FileEntry) (files : Files)
    (h : place ≠ []) :
    (files.put place entry).at? place' =
      if place' = place then some entry else files.at? place' := by
  by_cases h0 : place' = []
  · simp [at?, h0, Ne.symm h]
  · simp [at?, h0, lookup_put]

/-- **A removal is seen at its place and nowhere else.** -/
theorem at?_remove {place : FilePlace} (place' : FilePlace) (files : Files) (h : place ≠ []) :
    (files.remove place).at? place' =
      if place' = place then none else files.at? place' := by
  by_cases h0 : place' = []
  · simp [at?, h0, Ne.symm h]
  · simp [at?, h0, lookup_remove]

/-! ### Finding places -/

/-- The greatest length of a name, in bytes. -/
def longestName : Nat := 255

/-- Whether a name is too long. -/
def isTooLong (name : String) : Bool := longestName < name.utf8ByteSize

/-- The place that a name leads to from another. -/
def step (place : FilePlace) (name : String) : FilePlace :=
  if name = FilePath.above then place.dropLast else place ++ [name]

/-- Follows names from a place. All but the last must lead to directories. -/
def follow (files : Files) (place : FilePlace) : List String → Except FileFault FilePlace
  | [] => .ok place
  | [name] => if isTooLong name then .error .nameTooLong else .ok (step place name)
  | name :: rest =>
    if isTooLong name then .error .nameTooLong
    else
      match files.at? (step place name) with
      | none => .error .notFound
      | some (.file _) => .error .notADirectory
      | some .directory => follow files (step place name) rest

/-- Whether no name of a path holds a character that no name may hold. -/
def hasValidNames (path : FilePath) : Bool :=
  path.names.all fun name => !name.toList.contains '\x00'

/-- **The place of a path.** A file is not found under the path of a directory. -/
def place? (files : Files) (path : FilePath) : Except FileFault FilePlace :=
  if hasValidNames path then
    match follow files [] path.names with
    | .error fault => .error fault
    | .ok place =>
      match path.isDirectory, files.at? place with
      | true, some (.file _) => .error .notADirectory
      | _, _ => .ok place
  else .error .invalidName

/-- Whether there is anything at a path. -/
def isPresent (files : Files) (path : FilePath) : Bool :=
  match files.place? path with
  | .ok place => (files.at? place).isSome
  | .error _ => false

/-! ### Operations -/

/-- The bytes of the file at a path. -/
def read (path : FilePath) : Act Files FileFault ByteArray := fun files =>
  match files.place? path with
  | .error fault => .error fault files
  | .ok place =>
    match files.at? place with
    | none => .error .notFound files
    | some .directory => .error .isADirectory files
    | some (.file content) => .ok content files

/-- The text of the file at a path. -/
def readText (path : FilePath) : Act Files FileFault String := do
  match String.fromUTF8? (← read path) with
  | some text => return text
  | none => throw .notText

/-- Writes a file, which is made if there is none. -/
def write (path : FilePath) (content : ByteArray) : Act Files FileFault Unit := fun files =>
  match files.place? path with
  | .error fault => .error fault files
  | .ok place =>
    match files.at? place with
    | some .directory => .error .isADirectory files
    | some (.file _) => .ok () (files.put place (.file content))
    | none => if path.isDirectory then .error .isADirectory files
      else .ok () (files.put place (.file content))

/-- Makes the directories that names lead through from a place. -/
def makeFrom (place : FilePlace) : List String → Act Files FileFault Unit
  | [] => pure ()
  | name :: rest => fun files =>
    if isTooLong name then .error .nameTooLong files
    else
      match files.at? (step place name) with
      | some .directory => makeFrom (step place name) rest files
      | some (.file _) =>
        .error (if rest.isEmpty then .alreadyExists else .notADirectory) files
      | none => makeFrom (step place name) rest (files.put (step place name) .directory)

/-- Makes a directory and those on the way to it, unless they are there. -/
def makeDirectories (path : FilePath) : Act Files FileFault Unit :=
  if hasValidNames path then makeFrom [] path.names else throw .invalidName

/-- Copies a file. -/
def copy (source target : FilePath) : Act Files FileFault Unit := fun files =>
  match read source files with
  | .ok content files => write target content files
  | .error .isADirectory files => .error .notARegularFile files
  | .error fault files => .error fault files

/-- Renames a file. A file that has the new name already is replaced, a directory
is not. -/
def rename (source target : FilePath) : Act Files FileFault Unit := fun files =>
  match files.place? source, files.place? target with
  | .error fault, _ => .error fault files
  | _, .error fault => .error fault files
  | .ok here, .ok there =>
    match files.at? here with
    | none => .error .notFound files
    | some entry =>
      if target.isDirectory then .error .notADirectory files
      else
        match files.at? there with
        | some .directory => .error .isADirectory files
        | _ => .ok () ((files.remove here).put there entry)

/-- Removes a file. -/
def delete (path : FilePath) : Act Files FileFault Unit := fun files =>
  match files.place? path with
  | .error fault => .error fault files
  | .ok place =>
    match files.at? place with
    | none => .error .notFound files
    | some .directory => .error .isADirectory files
    | some (.file _) => .ok () (files.remove place)

end Files

end ServerConnections
