import ServerConnections.Domain.Punycode
import ServerConnections.Domain.Table
import ServerConnections.Text.Canonical.Form
import ServerConnections.Text.Property
import ServerConnections.Text.Split

/-!
# Domain names

The host of a web address is compared in its ASCII form. A name without encoded
labels that is ASCII already only has its letters made small. Any other name is
mapped to its canonical characters, cut into labels, and each label is written in
ASCII.

A label is a part of a domain name between dots. One beyond ASCII has two forms,
as its characters and as `xn--` with ASCII. A label is valid under these rules:

* every character is allowed and stands for itself, and the label is in composed
  form,
* it does not start with a combining mark,
* joiners without width stand only where they make a difference,
* in a name with letters that run from right to left, every label keeps one
  direction.

`Domain.toAscii?` answers nothing for a name that is not valid.
-/

namespace ServerConnections.Domain

open Text

/-- Whether a character is ASCII. -/
def isAscii (c : Char) : Bool := c.toNat < 0x80

/-- The mark of labels that stand for others. -/
def encodedMark : List Char := ['x', 'n', '-', '-']

/-! ### Mapping -/

/-- What a character is mapped to, or nothing if it is not allowed. -/
def mapChar? (c : Char) : Option (List Char) :=
  match treatment c with
  | .valid => some [c]
  | .mapped replacement => some replacement
  | .ignored => some []
  | .refused => none

/-- The mapped form of a text, composed. -/
def mapped? (s : List Char) : Option (List Char) :=
  (s.mapM mapChar?).map fun parts => Canonical.composed parts.flatten

/-! ### Joiners -/

/-- The zero-width non-joiner. -/
def nonJoiner : Char := '\u200C'

/-- The zero-width joiner. -/
def joiner : Char := '\u200D'

/-- The combining class of viramas. -/
def viramaClass : Nat := 9

/-- Whether the nearest character that letters do not join through has a
property. -/
def nearest (p : Char → Bool) (s : List Char) : Bool :=
  ((s.dropWhile isTransparent).head?.map p).getD false

/-- Whether joiners are in their places, `before` being the characters passed, the
last one first. -/
def joinersFit (before : List Char) : List Char → Bool
  | [] => true
  | c :: rest =>
    let behindVirama := before.head?.any fun d => Canonical.combiningClass d == viramaClass
    let fits :=
      if c = joiner then behindVirama
      else if c = nonJoiner then
        behindVirama || (nearest joinsNext before && nearest joinsPrevious rest)
      else true
    fits && joinersFit (c :: before) rest

/-! ### Direction -/

/-- Whether a label has characters that make its name run in two directions. -/
def turns (label : List Char) : Bool :=
  label.any fun c => Direction.ofChar c == .right || Direction.ofChar c == .arabicNumber

/-- The last direction that is not a mark's. -/
def lastDirection? (ds : List Direction) : Option Direction :=
  (ds.filter (· != .mark)).getLast?

/-- Whether a label that starts from the right keeps its direction. -/
def keepsRight (ds : List Direction) : Bool :=
  ds.all (fun d => d != .left && d != .other) &&
    (lastDirection? ds == some .right || lastDirection? ds == some .europeanNumber ||
      lastDirection? ds == some .arabicNumber) &&
    !(ds.contains .europeanNumber && ds.contains .arabicNumber)

/-- Whether a label that starts from the left keeps its direction. -/
def keepsLeft (ds : List Direction) : Bool :=
  ds.all (fun d => d == .left || d == .europeanNumber || d == .neutral || d == .mark) &&
    (lastDirection? ds == some .left || lastDirection? ds == some .europeanNumber)

/-- **Whether a label keeps one direction.** -/
def keepsDirection (label : List Char) : Bool :=
  match label.map Direction.ofChar with
  | [] => true
  | .right :: ds => keepsRight (.right :: ds)
  | .left :: ds => keepsLeft (.left :: ds)
  | _ => false

/-! ### Validity -/

/-- Whether a label of allowed characters in composed form is valid. -/
def isValidLabel (label : List Char) : Bool :=
  !(label.head?.map isMark).getD false && joinersFit [] label

/-- The characters of a label in mapped form, if it is valid. -/
def label? (s : List Char) : Option (List Char) :=
  if encodedMark.isPrefixOf s then
    (Punycode.decode? (s.drop encodedMark.length)).filter fun label =>
      label.any (!isAscii ·) && mapped? label == some label && isValidLabel label
  else if isValidLabel s then some s
  else none

/-- The ASCII form of a label. -/
def asciiLabel (label : List Char) : List Char :=
  if label.all isAscii then label else encodedMark ++ Punycode.encode label

/-! ### Names -/

/-- Whether a character is a dot. -/
def isDot (c : Char) : Bool := c == '.'

/-- The ASCII characters that no host may hold. -/
def isForbidden (c : Char) : Bool :=
  c.toNat ≤ 0x20 || c.toNat == 0x7F ||
    ['%', '#', '/', ':', '<', '>', '?', '@', '[', '\\', ']', '^', '|'].contains c

/-- The labels of a name. -/
def labels (name : List Char) : List (List Char) := Text.fields isDot name

/-- A name in small letters. -/
def lowercase (name : List Char) : List Char := name.map Char.toLower

/-- Whether a name is ASCII and none of its labels is encoded. -/
def isPlain (name : List Char) : Bool :=
  name.all isAscii && (labels (lowercase name)).all fun l => !encodedMark.isPrefixOf l

/-- The labels of a name in mapped form, if all are valid. -/
def validLabels? (name : List Char) : Option (List (List Char)) :=
  ((labels name).mapM label?).filter fun ls => !ls.any turns || ls.all keepsDirection

/-- **The ASCII form of a name.** -/
def toAscii? (name : List Char) : Option (List Char) :=
  if isPlain name then
    if name.any isForbidden then none else some (lowercase name)
  else
    (mapped? name).bind fun name =>
      if name.any isForbidden then none
      else (validLabels? name).map fun ls => Text.joined ['.'] (ls.map asciiLabel)

end ServerConnections.Domain
