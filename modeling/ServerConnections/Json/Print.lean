import ServerConnections.Json.Value
import ServerConnections.Json.Shortest

/-!
# Writing JSON

Two forms of one value: `compact` has no blanks, `pretty` indents by two spaces
and puts each item and member on a line of its own. Both write the same words,
texts and numbers, and an empty array or object without anything inside.

A text is written with short escapes where there are any; other characters below
U+0020 are written by number, and everything else as it is.
-/

namespace ServerConnections.Json

/-- The hexadecimal digit of a number below sixteen. -/
def hexDigit (n : Nat) : Char :=
  Nat.digitChar n

/-- A character as it stands in a text. -/
def escapeChar (c : Char) : List Char :=
  if c = '"' then ['\\', '"']
  else if c = '\\' then ['\\', '\\']
  else if c = '\x08' then ['\\', 'b']
  else if c = '\x0c' then ['\\', 'f']
  else if c = '\n' then ['\\', 'n']
  else if c = '\r' then ['\\', 'r']
  else if c = '\t' then ['\\', 't']
  else if c.toNat < 0x20 then
    ['\\', 'u', '0', '0', hexDigit (c.toNat / 16), hexDigit (c.toNat % 16)]
  else [c]

/-- A text with its quotes. -/
def quoted (s : String) : List Char :=
  '"' :: (s.toList.flatMap escapeChar ++ ['"'])

/-- An integer in decimal. -/
def intText : Int → List Char
  | .ofNat n => Nat.toDigits 10 n
  | .negSucc n => '-' :: Nat.toDigits 10 (n + 1)

/-- A number. -/
def Number.chars : Number → List Char
  | .int i => intText i
  | .float x => DecimalLayout.settings.text x

/-- A value that holds no others. -/
def flagText (b : Bool) : List Char :=
  if b then ['t', 'r', 'u', 'e'] else ['f', 'a', 'l', 's', 'e']

namespace Value

mutual

/-- A value without blanks. -/
def compactChars : Value → List Char
  | .null => ['n', 'u', 'l', 'l']
  | .bool b => flagText b
  | .number n => n.chars
  | .text s => quoted s
  | .array [] => ['[', ']']
  | .array (v :: vs) => '[' :: (compactChars v ++ compactItems vs)
  | .object [] => ['{', '}']
  | .object ((k, v) :: ms) => '{' :: (quoted k ++ ':' :: compactChars v ++ compactMembers ms)

/-- The items behind the first, with the closing bracket. -/
def compactItems : List Value → List Char
  | [] => [']']
  | v :: vs => ',' :: (compactChars v ++ compactItems vs)

/-- The members behind the first, with the closing brace. -/
def compactMembers : List (String × Value) → List Char
  | [] => ['}']
  | (k, v) :: ms => ',' :: (quoted k ++ ':' :: compactChars v ++ compactMembers ms)

end

/-- A new line at a level of indentation. -/
def newLine (level : Nat) : List Char :=
  '\n' :: List.replicate (2 * level) ' '

mutual

/-- A value with each part on its own line, at a level of indentation. -/
def prettyChars (level : Nat) : Value → List Char
  | .null => ['n', 'u', 'l', 'l']
  | .bool b => flagText b
  | .number n => n.chars
  | .text s => quoted s
  | .array [] => ['[', ']']
  | .array (v :: vs) =>
    '[' :: (newLine (level + 1) ++ prettyChars (level + 1) v ++ prettyItems level vs)
  | .object [] => ['{', '}']
  | .object ((k, v) :: ms) =>
    '{' :: (newLine (level + 1) ++ quoted k ++ ':' :: ' ' :: prettyChars (level + 1) v ++
      prettyMembers level ms)

/-- The items behind the first of an array that opens at a level, with the
closing bracket. -/
def prettyItems (level : Nat) : List Value → List Char
  | [] => newLine level ++ [']']
  | v :: vs =>
    ',' :: (newLine (level + 1) ++ prettyChars (level + 1) v ++ prettyItems level vs)

/-- The members behind the first of an object that opens at a level, with the
closing brace. -/
def prettyMembers (level : Nat) : List (String × Value) → List Char
  | [] => newLine level ++ ['}']
  | (k, v) :: ms =>
    ',' :: (newLine (level + 1) ++ quoted k ++ ':' :: ' ' :: prettyChars (level + 1) v ++
      prettyMembers level ms)

end

/-- The compact text of a value. -/
def compact (v : Value) : String :=
  String.ofList v.compactChars

/-- The indented text of a value. -/
def pretty (v : Value) : String :=
  String.ofList (v.prettyChars 0)

end Value

end ServerConnections.Json
