import ServerConnections.Json.Binary64

/-!
# The shortest decimal text of a binary64 number

A binary64 value is written with the fewest decimal digits that lie in the
interval of reals which round to it. Among two candidates of that length the
nearer one is taken, and of two equally near ones the even one. The interval
contains its ends if the mantissa is even. All comparisons are exact, on
natural numbers.

How the digits are laid out is the record `DecimalLayout`; the one that settings
documents use is `DecimalLayout.settings`.
-/

namespace ServerConnections.Json

/-- The value `digits` · 10^`exponent`. -/
structure DecimalDigits where
  digits : Nat
  exponent : Int
deriving DecidableEq, Repr

namespace Binary64

/-- The exponent of the leading decimal digit of a magnitude other than zero. -/
def leadingExponent (x : Binary64) : Int :=
  let shift : Nat := 330
  let scaled := x.ratio.1 * Nat.pow 10 shift / x.ratio.2
  ((Nat.toDigits 10 scaled).length : Int) - 1 - shift

/-- The factors `(a, b)` for which `c` · 10^`s` compares with
`v` · 2^(`exponent` − 2) as `c * a` compares with `v * b`. -/
def gridFactors (x : Binary64) (s : Int) : Nat × Nat :=
  let e := x.exponent - 2
  (Nat.pow 10 s.toNat * Nat.pow 2 (-e).toNat, Nat.pow 10 (-s).toNat * Nat.pow 2 e.toNat)

/-- How far the interval of a value reaches below four times its mantissa. At a
power of two the values below are twice as dense. -/
def reachBelow (x : Binary64) : Nat :=
  if x.mantissa = Nat.pow 2 52 ∧ -1074 < x.exponent then 1 else 2

/-- Whether `c` · 10^`s` rounds to the value. -/
def readsBack (x : Binary64) (s : Int) (c : Nat) : Bool :=
  let (a, b) := x.gridFactors s
  let low := (4 * x.mantissa - x.reachBelow) * b
  let high := (4 * x.mantissa + 2) * b
  if x.mantissa % 2 = 0 then low ≤ c * a && c * a ≤ high
  else low < c * a && c * a < high

/-- The best of the two grid points next to the value on the grid of step
10^`s`, if one of them rounds to the value. -/
def onGrid? (x : Binary64) (s : Int) : Option Nat :=
  let (a, b) := x.gridFactors s
  let v := 4 * x.mantissa * b
  let c := v / a
  let below := v - c * a
  let above := (c + 1) * a - v
  match x.readsBack s c, x.readsBack s (c + 1) with
  | true, true =>
    if below < above ∨ (below = above ∧ c % 2 = 0) then some c else some (c + 1)
  | true, false => some c
  | false, true => some (c + 1)
  | false, false => none

/-- Tries the grids with `taken` + 1 digits, `taken` + 2 digits, and so on. -/
def shortestFrom (x : Binary64) (taken : Nat) : Nat → DecimalDigits
  | 0 => ⟨0, 0⟩
  | tries + 1 =>
    let s := x.leadingExponent - taken
    match x.onGrid? s with
    | some c => if c % 10 = 0 then ⟨c / 10, s + 1⟩ else ⟨c, s⟩
    | none => shortestFrom x (taken + 1) tries

/-- The fewest digits that round to a value other than zero. Seventeen always
suffice. -/
def shortest (x : Binary64) : DecimalDigits :=
  x.shortestFrom 0 17

end Binary64

/-- Where a decimal text has its point and when it has an exponent. -/
structure DecimalLayout where
  /-- The least exponent of the leading digit that is written without `e`. -/
  leastPlain : Int
  /-- The least exponent of the leading digit, above one, that is written with `e`. -/
  leastScientific : Int
  /-- What follows a whole number that is written without `e`. -/
  wholeSuffix : List Char
  /-- What precedes an exponent that is not negative. -/
  positiveMark : List Char

namespace DecimalLayout

/-- Plain from 0.00001 up to but not including 10^16, a whole number with `.0`,
and exponents with an explicit sign. -/
def settings : DecimalLayout := ⟨-5, 16, ['.', '0'], ['+']⟩

/-- Digits with the point after the first of them, without a point if there is
one digit. -/
def scientificDigits : List Char → List Char
  | [] => []
  | [d] => [d]
  | d :: ds => d :: '.' :: ds

/-- The text of a magnitude other than zero. -/
def magnitude (layout : DecimalLayout) (d : DecimalDigits) : List Char :=
  let digits := Nat.toDigits 10 d.digits
  let lead : Int := d.exponent + digits.length - 1
  if layout.leastPlain ≤ lead ∧ lead < layout.leastScientific then
    if lead < 0 then
      '0' :: '.' :: (List.replicate (-lead - 1).toNat '0' ++ digits)
    else if digits.length ≤ lead.toNat + 1 then
      digits ++ List.replicate (lead.toNat + 1 - digits.length) '0' ++ layout.wholeSuffix
    else
      digits.take (lead.toNat + 1) ++ '.' :: digits.drop (lead.toNat + 1)
  else
    scientificDigits digits ++ 'e' ::
      (if lead < 0 then ['-'] else layout.positiveMark) ++ Nat.toDigits 10 lead.natAbs

/-- The text of a binary64 value. -/
def text (layout : DecimalLayout) (x : Binary64) : List Char :=
  (if x.negative then ['-'] else []) ++
    (if x.isZero then '0' :: layout.wholeSuffix else layout.magnitude x.shortest)

end DecimalLayout

end ServerConnections.Json
