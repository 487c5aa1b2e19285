/-!
# Reading bytes as text without failing

An answer from a server is read as UTF-8 whatever it declares. Bytes that form
no scalar value do not make the reading fail: each maximal part of a broken
sequence becomes one replacement character U+FFFD.

The reader is a machine over single bytes, by structural recursion: `Sequence`
is the multi-byte sequence that is open, with the range that the next byte must
be in. The ranges after the lead bytes E0, ED, F0 and F4 are narrower than
80–BF, which excludes overlong forms, surrogates and values above 10FFFF.
-/

namespace ServerConnections.Text

/-- An open multi-byte sequence: the bits read so far, how many bytes follow
(one more than `more`), and the range of the next one. -/
structure Sequence where
  bits : Nat
  more : Nat
  low : Nat
  high : Nat

/-- The character that stands for a broken sequence. -/
def replacement : Char := '\uFFFD'

namespace Sequence

/-- Reads a byte where no sequence is open: the characters it completes, and
the sequence it opens. -/
def lead (b : Nat) : List Char × Option Sequence :=
  if b < 0x80 then ([Char.ofNat b], none)
  else if 0xC2 ≤ b ∧ b ≤ 0xDF then ([], some ⟨b - 0xC0, 0, 0x80, 0xBF⟩)
  else if b = 0xE0 then ([], some ⟨0, 1, 0xA0, 0xBF⟩)
  else if b = 0xED then ([], some ⟨0xD, 1, 0x80, 0x9F⟩)
  else if 0xE1 ≤ b ∧ b ≤ 0xEF then ([], some ⟨b - 0xE0, 1, 0x80, 0xBF⟩)
  else if b = 0xF0 then ([], some ⟨0, 2, 0x90, 0xBF⟩)
  else if 0xF1 ≤ b ∧ b ≤ 0xF3 then ([], some ⟨b - 0xF0, 2, 0x80, 0xBF⟩)
  else if b = 0xF4 then ([], some ⟨4, 2, 0x80, 0x8F⟩)
  else ([replacement], none)

/-- The bits of a sequence with one more byte read. -/
def extend (s : Sequence) (b : Nat) : Nat :=
  s.bits * 64 + (b - 0x80)

/-- Reads a byte in a sequence. A byte that does not continue it breaks it and
is read as the start of something new. -/
def advance (s : Sequence) (b : Nat) : List Char × Option Sequence :=
  if s.low ≤ b ∧ b ≤ s.high then
    match s.more with
    | 0 => ([Char.ofNat (s.extend b)], none)
    | more + 1 => ([], some ⟨s.extend b, more, 0x80, 0xBF⟩)
  else
    (replacement :: (lead b).1, (lead b).2)

/-- Reads one byte, `open?` being the sequence that is open. -/
def step (open? : Option Sequence) (b : Nat) : List Char × Option Sequence :=
  open?.elim (lead b) (advance · b)

end Sequence

/-- Reads bytes, `open?` being the sequence that is open. A sequence that the
end cuts short is broken. -/
def lossyChars (open? : Option Sequence) : List UInt8 → List Char
  | [] => if open?.isSome then [replacement] else []
  | b :: rest =>
    (Sequence.step open? b.toNat).1 ++ lossyChars (Sequence.step open? b.toNat).2 rest

/-- The text of some bytes, with U+FFFD for each maximal broken part. -/
def ofBytesLossy (bytes : ByteArray) : String :=
  String.ofList (lossyChars none bytes.toList)

end ServerConnections.Text
