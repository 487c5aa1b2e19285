import ServerConnections.Text.Canonical.Table

/-!
# The composed canonical form

Canonically equivalent texts have one composed form: every character is
decomposed, marks that may change places are put in the order of their classes,
and what can be put together is put together again (normalization form C).

Hangul syllables are decomposed and composed by arithmetic on their code points.
-/

namespace ServerConnections.Text.Canonical

/-! ### Hangul syllables -/

/-- The first syllable. -/
def syllableBase : Nat := 0xAC00

/-- The first leading consonant. -/
def leadBase : Nat := 0x1100

/-- The first vowel. -/
def vowelBase : Nat := 0x1161

/-- The code point before the first trailing consonant. -/
def trailBase : Nat := 0x11A7

/-- The letters of a syllable. -/
def syllableLetters? (c : Char) : Option (List Char) :=
  let n := c.toNat
  if syllableBase ≤ n ∧ n < syllableBase + 11172 then
    let i := n - syllableBase
    let trail := if i % 28 = 0 then [] else [Char.ofNat (trailBase + i % 28)]
    some (Char.ofNat (leadBase + i / 588) :: Char.ofNat (vowelBase + i % 588 / 28) :: trail)
  else none

/-- The syllable of a leading consonant and a vowel, or of an open syllable and
a trailing consonant. -/
def syllable? (a b : Char) : Option Char :=
  let m := a.toNat
  let n := b.toNat
  if leadBase ≤ m ∧ m < leadBase + 19 ∧ vowelBase ≤ n ∧ n < vowelBase + 21 then
    some (Char.ofNat (syllableBase + (m - leadBase) * 588 + (n - vowelBase) * 28))
  else if syllableBase ≤ m ∧ m < syllableBase + 11172 ∧ (m - syllableBase) % 28 = 0 ∧
      trailBase < n ∧ n < trailBase + 28 then
    some (Char.ofNat (m + (n - trailBase)))
  else none

/-! ### Decomposition -/

/-- The characters that a character stands for, taken apart at most `depth`
times. -/
def decomposeChar : (depth : Nat) → Char → List Char
  | 0, c => [c]
  | depth + 1, c =>
    match syllableLetters? c, decompositionTable.find? c.toNat with
    | some letters, _ => letters
    | none, some (first, second) =>
      decomposeChar depth first ++ second.toList.flatMap (decomposeChar depth)
    | none, none => [c]

/-- How often a character can be taken apart: no decomposition of the table is
nested deeper. -/
def nesting : Nat := 4

/-- Puts a mark in front of ordered characters, behind those marks that belong
before it. -/
def insertMark (c : Char) : List Char → List Char
  | [] => [c]
  | d :: rest =>
    if 0 < combiningClass d ∧ combiningClass d < combiningClass c then
      d :: insertMark c rest
    else c :: d :: rest

/-- The decomposed form. -/
def decomposed (s : List Char) : List Char :=
  (s.flatMap (decomposeChar nesting)).foldr insertMark []

/-! ### Composition -/

/-- The key of a pair of characters. -/
def pairKey (a b : Char) : Nat := a.toNat * 0x110000 + b.toNat

/-- The pairs that are put together. -/
def pairs : List (Nat × Char) :=
  decompositionTable.entries.toList.filterMap fun (n, first, second) =>
    if excludedTable.contains n then none
    else second.map fun second => (pairKey first second, Char.ofNat n)

/-- The compositions, by pair. -/
def compositionTable : CodeMap Char :=
  ⟨(pairs.mergeSort fun p q => p.1 ≤ q.1).toArray⟩

/-- The character that two characters make. -/
def compose? (a b : Char) : Option Char :=
  (syllable? a b).or (compositionTable.find? (pairKey a b))

/-- Composes from a starter on, with the marks behind it that did not join it and
the class of the last of these. -/
def composeFrom (starter : Char) (marks : List Char) (lastClass : Nat) :
    List Char → List Char
  | [] => starter :: marks
  | c :: rest =>
    let k := combiningClass c
    match if marks.isEmpty || lastClass < k then compose? starter c else none with
    | some starter => composeFrom starter marks lastClass rest
    | none =>
      if k = 0 then starter :: marks ++ composeFrom c [] 0 rest
      else composeFrom starter (marks ++ [c]) k rest

/-- Composes what a text holds, in decomposed form. -/
def composeAll : List Char → List Char
  | [] => []
  | c :: rest => if combiningClass c = 0 then composeFrom c [] 0 rest else c :: composeAll rest

/-- **The composed form of a text.** -/
def composed (s : List Char) : List Char := composeAll (decomposed s)

end ServerConnections.Text.Canonical
