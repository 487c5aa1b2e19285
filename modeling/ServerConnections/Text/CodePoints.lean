/-!
# Tables of code points

Character properties are given by tables of code points. A table is written as a
text of numbers in base 26: the digits are letters, a small letter where another
digit of the number follows and a capital where it ends.

`RangeTable` is a set of code points, written as the gap before each range and
the length of the range less one. A property that has a value for some code points
is a `CodeMap`: the code points, each with its value. Both are in ascending order,
and are searched by halves.
-/

namespace ServerConnections.Text

/-- Reads numbers in base 26, `n` being the value of the digits read of the
first. Other characters than letters are passed over. -/
def numbersFrom (n : Nat) : List Char → List Nat
  | [] => []
  | c :: cs =>
    if c.isUpper then (n * 26 + (c.toNat - 'A'.toNat)) :: numbersFrom 0 cs
    else if c.isLower then numbersFrom (n * 26 + (c.toNat - 'a'.toNat)) cs
    else numbersFrom n cs

/-- The numbers that a text in base 26 holds. -/
def numbers (s : String) : List Nat :=
  numbersFrom 0 s.toList

/-- A set of code points: the first and the last of each range, ascending. -/
structure RangeTable where
  ranges : Array (Nat × Nat)

namespace RangeTable

/-- The ranges given by gaps and lengths, the first gap being counted from
`start`. -/
def rangesFrom (start : Nat) : List Nat → List (Nat × Nat)
  | gap :: length :: rest =>
    (start + gap, start + gap + length) :: rangesFrom (start + gap + length + 1) rest
  | _ => []

/-- The table that a text holds. -/
def ofText (s : String) : RangeTable :=
  ⟨(rangesFrom 0 (numbers s)).toArray⟩

/-- Searches the ranges from index `low` up to, not including, `high`. -/
def search (t : RangeTable) (n : Nat) (low high : Nat) : Bool :=
  if low < high then
    let middle := (low + high) / 2
    match t.ranges[middle]? with
    | none => false
    | some (first, last) =>
      if n < first then search t n low middle
      else if last < n then search t n (middle + 1) high
      else true
  else false
termination_by high - low
decreasing_by all_goals omega

/-- Whether a code point is in the table. -/
def contains (t : RangeTable) (n : Nat) : Bool :=
  t.search n 0 t.ranges.size

end RangeTable

/-- A map from code points, in ascending order. -/
structure CodeMap (β : Type) where
  entries : Array (Nat × β)

namespace CodeMap

variable {β : Type}

/-- Searches the entries from index `low` up to, not including, `high`. -/
def search (m : CodeMap β) (n : Nat) (low high : Nat) : Option β :=
  if low < high then
    let middle := (low + high) / 2
    match m.entries[middle]? with
    | none => none
    | some (code, value) =>
      if n < code then search m n low middle
      else if code < n then search m n (middle + 1) high
      else some value
  else none
termination_by high - low
decreasing_by all_goals omega

/-- The value of a code point. -/
def find? (m : CodeMap β) (n : Nat) : Option β :=
  m.search n 0 m.entries.size

end CodeMap

end ServerConnections.Text
