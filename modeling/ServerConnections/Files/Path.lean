import ServerConnections.Text.Split

/-!
# Paths of files

A path is the list of its names from a root directory on; the name `..` leads
back to the directory above. A path that was written with a slash at its end is
the path of a directory and nothing else.

A file name has a stem and an extension. The main definition is
`FilePath.withExtension`, which names the files that stand beside a settings
file.
-/

namespace ServerConnections

/-- A path below a root directory. -/
structure FilePath where
  names : List String
  /-- Whether the path ends in a slash. -/
  isDirectory : Bool
deriving DecidableEq, Repr

namespace FilePath

/-- The name that leads to the directory above. -/
def above : String := ".."

/-- Whether a character separates names. -/
def isSeparator (c : Char) : Bool := c == '/'

/-- The path that a text stands for. Empty names and single dots say nothing. -/
def ofText (s : String) : FilePath where
  names := ((Text.fields isSeparator s.toList).map String.ofList).filter fun name =>
    !name.isEmpty && name != "."
  isDirectory := s.toList.getLast?.any isSeparator

/-- The text of a path. -/
def text (p : FilePath) : String := "/".intercalate p.names

/-- The path of the directory that the path is in. -/
def directory (p : FilePath) : FilePath := ⟨p.names.dropLast, false⟩

/-- The last name. -/
def fileName? (p : FilePath) : Option String := p.names.getLast?

/-- The path of a file in a directory. -/
def file (p : FilePath) (name : String) : FilePath := ⟨p.names ++ [name], false⟩

/-! ### Extensions -/

/-- What is before the last dot of a name, and whether there is an extension
behind it. A dot at the start does not begin an extension. -/
def splitExtension (name : List Char) : List Char × Bool :=
  match name.reverse.span (· != '.') with
  | (_, _ :: before) => if before.isEmpty then (name, false) else (before.reverse, true)
  | (_, []) => (name, false)

/-- A file name with another extension. Where the stem is a single dot, what is
left of the name leads to the directory above, and stays so, unless a slash was
written behind the name. -/
def nameWithExtension (slash : Bool) (name extension : String) : String :=
  let (stem, hasExtension) := splitExtension name.toList
  if name = above || (hasExtension && stem = ['.'] && !slash) then above
  else String.ofList stem ++ "." ++ extension

/-- The path with another extension of the file name. -/
def withExtension (p : FilePath) (extension : String) : FilePath :=
  match p.fileName? with
  | none => p
  | some name => p.directory.file (nameWithExtension p.isDirectory name extension)

/-- The text of a path below a directory, given by its text: a slash is put
between them, unless there is one. -/
def joinedText (directory name : String) : String :=
  if directory.isEmpty || directory.toList.getLast?.any isSeparator then directory ++ name
  else directory ++ "/" ++ name

end FilePath

end ServerConnections
