import ServerConnections.Text.Split
import ServerConnections.Url.Ip

/-!
# Percent encoding and paths

A byte of a URL may be given by two hexadecimal digits behind a percent sign.
`decoded?` reads such bytes of a host and answers text if they are UTF-8;
`encoded` writes the characters of a set as their bytes.

The path of a web address is a list of segments. Segments of one dot are dropped,
a segment of two dots takes away the one before it, and characters that a path
may not hold are encoded. Slashes and backslashes are the same.
-/

namespace ServerConnections.Url

/-- The bytes of a character in UTF-8. -/
def utf8Bytes (c : Char) : List UInt8 := String.utf8EncodeChar c

/-- The byte that two hexadecimal digits stand for. -/
def byte? (high low : Char) : Option UInt8 :=
  (digit? 16 high).bind fun h => (digit? 16 low).map fun l => UInt8.ofNat (h * 16 + l)

/-- The bytes of a text, percent signs before two digits being decoded. -/
def percentBytes : List Char → List UInt8
  | '%' :: high :: low :: rest =>
    match byte? high low with
    | some b => b :: percentBytes rest
    | none => utf8Bytes '%' ++ percentBytes (high :: low :: rest)
  | c :: rest => utf8Bytes c ++ percentBytes rest
  | [] => []
termination_by s => s.length

/-- The text that is left when percent signs are decoded, if it is UTF-8. -/
def decoded? (s : List Char) : Option (List Char) :=
  if s.contains '%' then
    (String.fromUTF8? (ByteArray.mk (percentBytes s).toArray)).map String.toList
  else some s

/-- The hexadecimal digit of a number below sixteen, as a capital. -/
def capitalDigit (n : Nat) : Char := (Nat.digitChar n).toUpper

/-- A byte behind a percent sign. -/
def percentByte (b : UInt8) : List Char :=
  ['%', capitalDigit (b.toNat / 16), capitalDigit (b.toNat % 16)]

/-- A text with the characters of a set percent-encoded. -/
def encoded (isEncoded : Char → Bool) (s : List Char) : List Char :=
  s.flatMap fun c => if isEncoded c then (utf8Bytes c).flatMap percentByte else [c]

/-- The characters that are encoded everywhere: controls and all beyond ASCII. -/
def isControlOrBeyond (c : Char) : Bool :=
  c.toNat < 0x20 || 0x7F ≤ c.toNat

/-- The characters that are encoded in paths. -/
def isEncodedInPath (c : Char) : Bool :=
  isControlOrBeyond c || [' ', '"', '<', '>', '\x60', '#', '?', '\x7b', '\x7d'].contains c

/-- The characters that are encoded in queries. -/
def isEncodedInQuery (c : Char) : Bool :=
  isControlOrBeyond c || [' ', '"', '#', '<', '>', '\''].contains c

theorem decoded?_of_not_mem {s : List Char} (h : '%' ∉ s) : decoded? s = some s := by
  simp [decoded?, h]

/-! ## Paths -/

/-- Whether a character separates segments. -/
def isSlash (c : Char) : Bool := c == '/' || c == '\\'

/-- Whether a character ends a path. -/
def endsPath (c : Char) : Bool := c == '?' || c == '#'

/-- A segment with encoded dots decoded. -/
def plainDots : List Char → List Char
  | '%' :: '2' :: c :: rest =>
    if c = 'e' ∨ c = 'E' then '.' :: plainDots rest else '%' :: '2' :: c :: plainDots rest
  | c :: rest => c :: plainDots rest
  | [] => []

/-- The segments without those of dots, as `dots` reads them, `above` being the
segments before, the last one first. A path that ends in dots ends in a slash. -/
def withoutDots (dots : List Char → List Char) (above : List (List Char)) :
    List (List Char) → List (List Char)
  | [] => above.reverse
  | segment :: rest =>
    if dots segment = ['.', '.'] then
      withoutDots dots (if rest.isEmpty then [] :: above.drop 1 else above.drop 1) rest
    else if dots segment = ['.'] then
      withoutDots dots (if rest.isEmpty then [] :: above else above) rest
    else withoutDots dots (segment :: above) rest

/-- The segments of a text that starts with a slash or is empty. -/
def rawSegments (s : List Char) : List (List Char) :=
  match s with
  | [] => [[]]
  | _ :: rest => Text.fields isSlash rest

/-- The segments of the path of a web address. -/
def segments (s : List Char) : List (List Char) :=
  (withoutDots plainDots [] (rawSegments s)).map (encoded isEncodedInPath)

/-- The text of a path. -/
def pathText (segments : List (List Char)) : List Char :=
  '/' :: Text.joined ['/'] segments

/-! ### Drive letters -/

/-- Whether a segment is the letter of a drive: a letter and a colon or bar. -/
def isDrive : List Char → Bool
  | [c, d] => c.isAlpha && (d == ':' || d == '|')
  | _ => false

/-- Whether the path of a file comes to start with a drive, `above` being the
segments before, the last one first. A drive is not taken away by two dots. -/
def reachesDrive (above : List (List Char)) : List (List Char) → Bool
  | [] => false
  | segment :: rest =>
    if plainDots segment = ['.', '.'] then
      reachesDrive (if (above.head?.map isDrive).getD false then above else above.drop 1) rest
    else if plainDots segment = ['.'] then reachesDrive above rest
    else if above.isEmpty && isDrive segment then true
    else reachesDrive (segment :: above) rest

end ServerConnections.Url
