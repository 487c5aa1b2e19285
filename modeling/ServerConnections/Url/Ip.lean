import ServerConnections.Text.Split

/-!
# IP addresses in URLs

Hosts may be given as numbers. A version 4 address has up to four parts in
decimal, octal or hexadecimal, of which the last fills what the others leave. A
version 6 address has eight groups in hexadecimal, of which one run of zeros may
be left out and the last two may be given as a version 4 address.

Each address has one written form, `Ipv4.text` and `Ipv6.text`.
-/

namespace ServerConnections.Url

/-- The value of a digit in a base of at most sixteen. -/
def digit? (base : Nat) (c : Char) : Option Nat :=
  let n := c.toNat
  let value? :=
    if '0'.toNat ≤ n ∧ n ≤ '9'.toNat then some (n - '0'.toNat)
    else if 'a'.toNat ≤ n ∧ n ≤ 'f'.toNat then some (n - 'a'.toNat + 10)
    else if 'A'.toNat ≤ n ∧ n ≤ 'F'.toNat then some (n - 'A'.toNat + 10)
    else none
  value?.filter (· < base)

/-- The decimal digits. -/
theorem digit?_ten (c : Char) :
    digit? 10 c = if 48 ≤ c.toNat ∧ c.toNat ≤ 57 then some (c.toNat - 48) else none := by
  simp only [digit?, Char.reduceToNat]
  grind

/-- The number that digits stand for, `n` being the value of those before. -/
def digitsValue? (base n : Nat) : List Char → Option Nat
  | [] => some n
  | c :: cs => (digit? base c).bind fun d => digitsValue? base (n * base + d) cs

/-- Whether a character is a decimal digit. -/
def isDecimal (c : Char) : Bool := (digit? 10 c).isSome

/-- Whether a character is a dot. -/
def isDot (c : Char) : Bool := c == '.'

/-- Whether a character is a colon. -/
def isColon (c : Char) : Bool := c == ':'

/-! ### Version 4 -/

namespace Ipv4

/-- The number that a part stands for: hexadecimal behind `0x`, octal behind
another leading zero, else decimal. -/
def partValue? : List Char → Option Nat
  | [] => none
  | ['0'] => some 0
  | '0' :: c :: digits =>
    if c = 'x' ∨ c = 'X' then digitsValue? 16 0 digits else digitsValue? 8 0 (c :: digits)
  | digits => digitsValue? 10 0 digits

/-- The parts of a name, without an empty one at the end. -/
def parts (name : List Char) : List (List Char) :=
  let all := Text.fields isDot name
  if all.length > 1 ∧ all.getLast? = some [] then all.dropLast else all

/-- Whether a part looks like a number. -/
def isNumeric (part : List Char) : Bool :=
  (!part.isEmpty && part.all isDecimal) || (partValue? part).isSome

/-- **Whether a name is taken for an address**: its last part looks like a
number. -/
def isAddress (name : List Char) : Bool :=
  ((parts name).getLast?.map isNumeric).getD false

/-- The address of the values of its parts, `room` parts being still free. -/
def ofValues? : (room : Nat) → List Nat → Option Nat
  | 0, _ => none
  | _, [] => none
  | room, [last] => if last < Nat.pow 256 room then some last else none
  | room + 1, v :: rest =>
    if v < 256 then (ofValues? room rest).map (v * Nat.pow 256 room + ·) else none

/-- The address of a name. -/
def ofName? (name : List Char) : Option Nat :=
  ((parts name).mapM partValue?).bind (ofValues? 4)

/-- An address as four decimal parts. -/
def text (address : Nat) : List Char :=
  Text.joined ['.'] <|
    [address / 16777216 % 256, address / 65536 % 256, address / 256 % 256, address % 256].map
      (Nat.toDigits 10)

end Ipv4

/-! ### Version 6 -/

namespace Ipv6

/-- The value of a group: one to four hexadecimal digits. -/
def groupValue? (group : List Char) : Option Nat :=
  if group.isEmpty ∨ group.length > 4 then none else digitsValue? 16 0 group

/-- The value of a part of an embedded version 4 address: a decimal number below
256 without a leading zero. -/
def byteValue? (part : List Char) : Option Nat :=
  if part.isEmpty ∨ (part.length > 1 ∧ part.head? = some '0') then none
  else (digitsValue? 10 0 part).filter (· < 256)

/-- The two groups that an embedded version 4 address fills. -/
def embedded? (part : List Char) : Option (List Nat) :=
  ((Text.fields isDot part).mapM byteValue?).bind fun
    | [a, b, c, d] => some [a * 256 + b, c * 256 + d]
    | _ => none

/-- The groups at the end of an address, where a version 4 address may stand. -/
def lastGroups? (part : List Char) : Option (List Nat) :=
  if part.contains '.' then embedded? part else (groupValue? part).map fun v => [v]

/-- The values of groups separated by colons, the last of which may be a version
4 address if `atEnd`. -/
def groupValues? (atEnd : Bool) : List (List Char) → Option (List Nat)
  | [] => some []
  | [last] => if atEnd then lastGroups? last else (groupValue? last).map fun v => [v]
  | group :: rest =>
    (groupValue? group).bind fun v => (groupValues? atEnd rest).map (v :: ·)

/-- The values of groups; there are none in an empty text. -/
def groups? (atEnd : Bool) (s : List Char) : Option (List Nat) :=
  if s.isEmpty then some [] else groupValues? atEnd (Text.fields isColon s)

/-- The text before the first double colon and the text behind it. -/
def gap? : List Char → Option (List Char × List Char)
  | [] => none
  | [_] => none
  | a :: b :: rest =>
    if a = ':' ∧ b = ':' then some ([], rest)
    else (gap? (b :: rest)).map fun (before, behind) => (a :: before, behind)

/-- The address with zeros in its gap. -/
def fillGap? (before behind : List Nat) : Option (List Nat) :=
  if before.length + behind.length < 8 then
    some (before ++ List.replicate (8 - before.length - behind.length) 0 ++ behind)
  else none

/-- **The eight groups of an address.** -/
def ofText? (s : List Char) : Option (List Nat) :=
  match gap? s with
  | some (before, behind) =>
    (groups? false before).bind fun before =>
      (groups? true behind).bind fun behind => fillGap? before behind
  | none => (groups? true s).filter fun groups => groups.length == 8

/-- The length of the run of zeros at the start. -/
def zeros : List Nat → Nat
  | 0 :: rest => zeros rest + 1
  | _ => 0

/-- The start and the length of the first longest run of zeros, `start` being the
index of the first group. -/
def longestZeros (start : Nat) : List Nat → Nat × Nat
  | [] => (start, 0)
  | g :: rest =>
    let here := zeros (g :: rest)
    let later := longestZeros (start + 1) rest
    if later.2 ≤ here then (start, here) else later

/-- Groups with colons between them. -/
def groupsText (groups : List Nat) : List Char :=
  Text.joined [':'] (groups.map (Nat.toDigits 16))

/-- **The text of an address**: the first longest run of at least two zeros is
left out. -/
def text (groups : List Nat) : List Char :=
  let (start, length) := longestZeros 0 groups
  if length < 2 then groupsText groups
  else groupsText (groups.take start) ++ ':' :: ':' ::
    groupsText (groups.drop (start + length))

end Ipv6

end ServerConnections.Url
