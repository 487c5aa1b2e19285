/-!
# Punycode

Labels beyond ASCII are written with ASCII letters, digits and hyphens: the ASCII
characters of the label come first, then numbers that say which other character
goes where. A number is written in base 36 with digits of varying weight; how the
weights vary is adapted to the numbers seen.

`decode?` and `encode` work on the text behind the mark `xn--`.
-/

namespace ServerConnections.Domain.Punycode

/-- The first code point beyond ASCII. -/
def firstCode : Nat := 0x80

/-- The bias of the first number. -/
def firstBias : Nat := 72

/-- The value of a digit. -/
def digitValue? (c : Char) : Option Nat :=
  let n := c.toNat
  if 'a'.toNat ≤ n ∧ n ≤ 'z'.toNat then some (n - 'a'.toNat)
  else if 'A'.toNat ≤ n ∧ n ≤ 'Z'.toNat then some (n - 'A'.toNat)
  else if '0'.toNat ≤ n ∧ n ≤ '9'.toNat then some (n - '0'.toNat + 26)
  else none

/-- The digit of a value below 36. -/
def digitOf (d : Nat) : Char :=
  if d < 26 then Char.ofNat ('a'.toNat + d) else Char.ofNat ('0'.toNat + d - 26)

/-- The threshold of the digit at a position, counted in steps of 36. -/
def threshold (position bias : Nat) : Nat :=
  if position ≤ bias then 1 else if bias + 26 ≤ position then 26 else position - bias

theorem threshold_pos (position bias : Nat) : 1 ≤ threshold position bias := by
  simp only [threshold]; split <;> try split
  all_goals omega

theorem threshold_le (position bias : Nat) : threshold position bias ≤ 26 := by
  simp only [threshold]; split <;> try split
  all_goals omega

/-- Divides until at most 455 is left, counting in steps of 36. -/
def scaled (n steps : Nat) : Nat × Nat :=
  if 455 < n then scaled (n / 35) (steps + 36) else (n, steps)
termination_by n
decreasing_by omega

/-- The bias after a number, `count` characters being placed. -/
def adapted (n count : Nat) (first : Bool) : Nat :=
  let damped := if first then n / 700 else n / 2
  let (rest, steps) := scaled (damped + damped / count) 0
  steps + 36 * rest / (rest + 38)

/-! ### Decoding -/

/-- Reads a number: its value and the characters behind it. -/
def number? (bias : Nat) (position weight n : Nat) : List Char → Option (Nat × List Char)
  | [] => none
  | c :: rest =>
    match digitValue? c with
    | none => none
    | some d =>
      let t := threshold position bias
      if d < t then some (n + d * weight, rest)
      else number? bias (position + 36) (weight * (36 - t)) (n + d * weight) rest

theorem number?_length {bias position weight n m : Nat} {s rest : List Char}
    (h : number? bias position weight n s = some (m, rest)) : rest.length < s.length := by
  induction s generalizing position weight n with
  | nil => simp [number?] at h
  | cons c s ih =>
    simp only [number?] at h
    split at h
    · simp at h
    · split at h
      · simp only [Option.some.injEq, Prod.mk.injEq] at h
        simp [h.2]
      · have := ih h
        simp only [List.length_cons]; omega

/-- The character of a code point, if it is one. -/
def char? (n : Nat) : Option Char :=
  if n.isValidChar then some (Char.ofNat n) else none

/-- Places characters from code point `code` and index `index` on. Only before
the first character is placed is the index zero. -/
def place? (placed : List Char) (code index bias : Nat) (s : List Char) : Option (List Char) :=
  if s.isEmpty then some placed
  else
    match _h : number? bias 36 1 0 s with
    | none => none
    | some (n, rest) =>
      let count := placed.length + 1
      let code := code + (index + n) / count
      let spot := (index + n) % count
      match char? code with
      | none => none
      | some c =>
        place? (placed.take spot ++ c :: placed.drop spot) code (spot + 1)
          (adapted n count (index == 0)) rest
termination_by s.length
decreasing_by exact number?_length _h

/-- The characters before the last hyphen and those behind it; all are behind it
if there is no hyphen. -/
def splitLast (s : List Char) : List Char × List Char :=
  match s.reverse.span (· != '-') with
  | (behind, _ :: before) => (before.reverse, behind.reverse)
  | (behind, []) => ([], behind.reverse)

/-- **The label that a text stands for.** -/
def decode? (s : List Char) : Option (List Char) :=
  let (ascii, numbers) := splitLast s
  place? ascii firstCode 0 firstBias numbers

/-! ### Encoding -/

/-- The digits of a number. -/
def digits (bias : Nat) (position n : Nat) : List Char :=
  let t := threshold position bias
  if n < t then [digitOf n]
  else digitOf (t + (n - t) % (36 - t)) :: digits bias (position + 36) ((n - t) / (36 - t))
termination_by n
decreasing_by
  have low := threshold_pos position bias
  have high := threshold_le position bias
  have := Nat.div_le_self (n - threshold position bias) (36 - threshold position bias)
  omega

/-- Where the writing of a label stands: the digits written, the number that
grows, the bias, and how many characters are placed. -/
structure Writing where
  written : List Char
  number : Nat
  bias : Nat
  placed : Nat

/-- Passes a character of the label while `code` is being placed, `ascii` being
the number of ASCII characters. -/
def Writing.pass (ascii code : Nat) (w : Writing) (c : Char) : Writing :=
  if c.toNat < code then { w with number := w.number + 1 }
  else if c.toNat = code then
    ⟨w.written ++ digits w.bias 36 w.number, 0,
      adapted w.number (w.placed + 1) (w.placed == ascii), w.placed + 1⟩
  else w

/-- Places the characters of ascending code points, the next possible one being
`code`. -/
def Writing.place (label : List Char) (ascii : Nat) : (codes : List Nat) → (code : Nat) →
    Writing → Writing
  | [], _, w => w
  | next :: codes, code, w =>
    let w := { w with number := w.number + (next - code) * (w.placed + 1) }
    let w := label.foldl (pass ascii next) w
    place label ascii codes (next + 1) { w with number := w.number + 1 }

/-- The text that a label is written as. -/
def encode (label : List Char) : List Char :=
  let ascii := label.filter fun c => c.toNat < firstCode
  let codes := ((label.map Char.toNat).filter (firstCode ≤ ·)).mergeSort.eraseDups
  let w := Writing.place label ascii.length codes firstCode ⟨[], 0, firstBias, ascii.length⟩
  (if ascii.isEmpty then [] else ascii ++ ['-']) ++ w.written

end ServerConnections.Domain.Punycode
