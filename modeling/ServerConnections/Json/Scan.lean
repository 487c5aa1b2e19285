import ServerConnections.Json.Value

/-!
# The lexical grammar of JSON

Readers for the parts of JSON text that hold no further values: blanks, words,
texts and numbers. A reader takes the characters that are left and answers what
it read with the characters behind it, or the first fault in reading order.

Design notes: there are three classes of fault. Text that ends where more is
needed is `cutShort`; text that is no JSON is `malformed`; JSON that is not of
the form asked for is a `misfit`. Texts and numbers exist in two readings, a
strict one for what is kept and a lax one for what is skipped: a skipped text may
hold unpaired surrogate escapes and a skipped number may be out of range.
-/

namespace ServerConnections.Json

/-- Why a text could not be read. -/
inductive Fault where
  /-- The text is not JSON. -/
  | malformed
  /-- The text ends inside a value. -/
  | cutShort
  /-- The text is JSON as far as it was read, but not of the form asked for. -/
  | misfit
deriving DecidableEq, Repr

/-- What a reading of the characters left comes to: a result and the characters
behind it. -/
abbrev Reading (α : Type) := Except Fault (α × List Char)

/-- The blanks between the parts of JSON: space, tab, line feed, carriage
return. -/
def isJsonBlank (c : Char) : Bool :=
  c == ' ' || c == '\t' || c == '\n' || c == '\r'

/-- The characters from the first one that is not blank. -/
def skipBlanks (s : List Char) : List Char :=
  s.dropWhile isJsonBlank

/-- Reads the rest of a word. -/
def word : List Char → List Char → Except Fault (List Char)
  | [], s => .ok s
  | _ :: _, [] => .error .cutShort
  | w :: ws, c :: s => if c = w then word ws s else .error .malformed

/-! ### Texts -/

/-- The number of bytes of some characters in UTF-8. -/
def utf8Length (s : List Char) : Nat :=
  s.foldr (fun c n => c.utf8Size + n) 0

/-- The value of a hexadecimal digit. -/
def hexDigit? (c : Char) : Option Nat :=
  let n := c.toNat
  if '0'.toNat ≤ n ∧ n ≤ '9'.toNat then some (n - '0'.toNat)
  else if 'a'.toNat ≤ n ∧ n ≤ 'f'.toNat then some (n - 'a'.toNat + 10)
  else if 'A'.toNat ≤ n ∧ n ≤ 'F'.toNat then some (n - 'A'.toNat + 10)
  else none

/-- The character that a one-letter escape stands for. -/
def escaped? (c : Char) : Option Char :=
  if c = '"' ∨ c = '\\' ∨ c = '/' then some c
  else if c = 'b' then some '\x08'
  else if c = 'f' then some '\x0c'
  else if c = 'n' then some '\n'
  else if c = 'r' then some '\r'
  else if c = 't' then some '\t'
  else none

/-- Where the reading of a text stands. -/
inductive TextState where
  /-- Between two characters of the text. -/
  | plain
  /-- Behind a backslash. -/
  | escape
  /-- In a four-digit escape: the leading surrogate before it, how many digits
  were read, and their value. -/
  | digits (lead : Option Nat) (read value : Nat)
  /-- Behind the escape of a leading surrogate. -/
  | surrogate (lead : Nat)
  /-- Behind the backslash that follows the escape of a leading surrogate. -/
  | surrogateEscape (lead : Nat)
deriving DecidableEq, Repr

/-- A digit of an escape is missing. The four bytes from the first digit on are
looked at together: if fewer are left, the text is cut short. -/
def faultInDigits (read : Nat) (s : List Char) : Fault :=
  if 4 ≤ read + utf8Length s then .malformed else .cutShort

/-- What a complete four-digit escape means: a character, or a leading surrogate
that must be followed by a trailing one. -/
def escapeUnit (lead : Option Nat) (unit : Nat) : Except Fault (Char ⊕ Nat) :=
  match lead with
  | none =>
    if 0xDC00 ≤ unit ∧ unit ≤ 0xDFFF then .error .malformed
    else if 0xD800 ≤ unit ∧ unit ≤ 0xDBFF then .ok (.inr unit)
    else .ok (.inl (Char.ofNat unit))
  | some high =>
    if 0xDC00 ≤ unit ∧ unit ≤ 0xDFFF then
      .ok (.inl (Char.ofNat (0x10000 + (high - 0xD800) * 0x400 + (unit - 0xDC00))))
    else .error .malformed

/-- Reads the characters of a text up to the closing quote, strictly. -/
def textChars (state : TextState) : List Char → Reading (List Char)
  | [] => .error .cutShort
  | c :: s =>
    match state with
    | .plain =>
      if c = '"' then .ok ([], s)
      else if c = '\\' then textChars .escape s
      else if c.toNat < 0x20 then .error .malformed
      else (textChars .plain s).map fun (cs, rest) => (c :: cs, rest)
    | .escape =>
      if c = 'u' then textChars (.digits none 0 0) s
      else match escaped? c with
        | some d => (textChars .plain s).map fun (cs, rest) => (d :: cs, rest)
        | none => .error .malformed
    | .digits lead read value =>
      match hexDigit? c with
      | none => .error (faultInDigits read (c :: s))
      | some d =>
        if read < 3 then textChars (.digits lead (read + 1) (value * 16 + d)) s
        else match escapeUnit lead (value * 16 + d) with
          | .error e => .error e
          | .ok (.inl ch) => (textChars .plain s).map fun (cs, rest) => (ch :: cs, rest)
          | .ok (.inr high) => textChars (.surrogate high) s
    | .surrogate lead =>
      if c = '\\' then textChars (.surrogateEscape lead) s else .error .malformed
    | .surrogateEscape lead =>
      if c = 'u' then textChars (.digits (some lead) 0 0) s else .error .malformed

/-- Passes over the characters of a text up to the closing quote, laxly. -/
def skipText (state : TextState) : List Char → Except Fault (List Char)
  | [] => .error .cutShort
  | c :: s =>
    match state with
    | .escape =>
      if c = 'u' then skipText (.digits none 0 0) s
      else if (escaped? c).isSome then skipText .plain s
      else .error .malformed
    | .digits lead read value =>
      if (hexDigit? c).isNone then .error (faultInDigits read (c :: s))
      else if read < 3 then skipText (.digits lead (read + 1) value) s
      else skipText .plain s
    | _ =>
      if c = '"' then .ok s
      else if c = '\\' then skipText .escape s
      else if c.toNat < 0x20 then .error .malformed
      else skipText .plain s

/-! ### Numbers -/

/-- A decimal digit. -/
def isDigit (c : Char) : Bool := '0' ≤ c && c ≤ '9'

/-- The value of a run of decimal digits. -/
def digitsValue (cs : List Char) : Nat :=
  cs.foldl (fun n c => n * 10 + (c.toNat - '0'.toNat)) 0

/-- The parts of a number as it is written. -/
structure Numeral where
  negative : Bool
  whole : List Char
  /-- The digits behind the point. -/
  fraction : Option (List Char)
  /-- The sign and the digits of the exponent. -/
  exponent : Option (Bool × List Char)
deriving DecidableEq, Repr

namespace Numeral

/-- Reads a run of at least one digit. -/
def digitRun (s : List Char) : Reading (List Char) :=
  match s with
  | [] => .error .cutShort
  | c :: _ =>
    if isDigit c then .ok (s.takeWhile isDigit, s.dropWhile isDigit) else .error .malformed

/-- Reads the digits before the point: a zero is followed by no other digit. -/
def wholePart (s : List Char) : Reading (List Char) :=
  match digitRun s with
  | .error e => .error e
  | .ok (digits, rest) =>
    if digits.head? = some '0' ∧ 1 < digits.length then .error .malformed
    else .ok (digits, rest)

/-- Reads the point and the digits behind it, if there is a point. -/
def fractionPart (s : List Char) : Reading (Option (List Char)) :=
  match s with
  | '.' :: rest => (digitRun rest).map fun (digits, rest) => (some digits, rest)
  | _ => .ok (none, s)

/-- Reads the exponent, if there is one. -/
def exponentPart (s : List Char) : Reading (Option (Bool × List Char)) :=
  match s with
  | c :: rest =>
    if c = 'e' ∨ c = 'E' then
      match rest with
      | '-' :: rest => (digitRun rest).map fun (digits, rest) => (some (true, digits), rest)
      | '+' :: rest => (digitRun rest).map fun (digits, rest) => (some (false, digits), rest)
      | rest => (digitRun rest).map fun (digits, rest) => (some (false, digits), rest)
    else .ok (none, s)
  | [] => .ok (none, s)

/-- The sign of a number and what is behind it. -/
def signPart : List Char → Bool × List Char
  | '-' :: rest => (true, rest)
  | s => (false, s)

/-- Reads a number as it is written. -/
def scan (s : List Char) : Reading Numeral :=
  match wholePart (signPart s).2 with
  | .error e => .error e
  | .ok (whole, s₁) =>
    match fractionPart s₁ with
    | .error e => .error e
    | .ok (fraction, s₂) =>
      match exponentPart s₂ with
      | .error e => .error e
      | .ok (exponent, s₃) => .ok (⟨(signPart s).1, whole, fraction, exponent⟩, s₃)

/-- The greatest significand: digits that would take it beyond 64 bits are not
read. -/
def greatest : Nat := Nat.pow 2 64 - 1

/-- Reads digits into a significand while it stays in range; also the number of
digits used and whether digits are left. -/
def accumulate (significand : Nat) : List Char → Nat × Nat × Bool
  | [] => (significand, 0, false)
  | c :: cs =>
    let next := significand * 10 + (c.toNat - '0'.toNat)
    if greatest < next then (significand, 0, true)
    else
      let (n, used, left) := accumulate next cs
      (n, used + 1, left)

/-- Whether the number is written as an integer. -/
def isInteger (n : Numeral) : Bool :=
  n.fraction.isNone && n.exponent.isNone

/-- The greatest number that an exponent is read as. -/
def greatestExponent : Nat := Nat.pow 2 31 - 1

/-- The exponent that is written, if it is in range. -/
def exponentValue? (digits : List Char) : Option Nat :=
  let v := digitsValue digits
  if v ≤ greatestExponent then some v else none

/-- The number that is meant: an integer of 64 bits exactly, except that minus
zero is a binary64 value like everything else. `none` if it is out of range. -/
def toNumber? (n : Numeral) : Option Number :=
  let (significand, used, _) := accumulate 0 n.whole
  if n.isInteger ∧ used = n.whole.length ∧ ¬ n.negative then
    some (.int significand)
  else if n.isInteger ∧ used = n.whole.length ∧ significand ≠ 0 ∧
      significand ≤ Nat.pow 2 63 then
    some (.int (-significand))
  else
    let dropped : Int := (n.whole.length - used : Nat)
    let (significand, fractionUsed, _) := accumulate significand (n.fraction.getD [])
    let shift : Int := dropped - fractionUsed
    match n.exponent with
    | none => (Binary64.ofDecimal n.negative significand shift).map .float
    | some (negative, digits) =>
      match exponentValue? digits with
      | some e =>
        let e : Int := if negative then shift - e else shift + e
        (Binary64.ofDecimal n.negative significand e).map .float
      | none =>
        if significand = 0 ∨ negative then some (.float (Binary64.zero n.negative)) else none

end Numeral

/-- Reads a number strictly: one that is out of range is malformed. -/
def number (s : List Char) : Reading Number :=
  match Numeral.scan s with
  | .error e => .error e
  | .ok (n, rest) =>
    match n.toNumber? with
    | some v => .ok (v, rest)
    | none => .error .malformed

/-- Passes over a number laxly. A number that is cut short is malformed here. -/
def skipNumber (s : List Char) : Except Fault (List Char) :=
  match Numeral.scan s with
  | .error _ => .error .malformed
  | .ok (_, rest) => .ok rest

end ServerConnections.Json
