/-!
# Finite binary64 numbers

A number that a settings document keeps and that is no 64-bit integer is held as
a binary64 value. The arithmetic is on natural numbers: `nearest` rounds an
exact quotient to the nearest representable value, ties to the even mantissa,
and multiplication and division round their exact result with it.

Design notes: infinities and NaN are no values of this type. An operation whose
rounded result would be infinite answers `none`, so that a number out of range
is an error where it is read and nowhere else.
-/

namespace ServerConnections.Json

/-- The finite value ±`mantissa` · 2^`exponent`. Values made by `nearest` have a
mantissa below 2^53 and the least exponent for which that is so, but not below
−1074. -/
structure Binary64 where
  negative : Bool
  mantissa : Nat
  exponent : Int
deriving DecidableEq, Repr

namespace Binary64

/-- The value zero, with a sign. -/
def zero (negative : Bool) : Binary64 := ⟨negative, 0, -1074⟩

/-- Whether the value is zero. -/
def isZero (x : Binary64) : Bool := x.mantissa == 0

/-- The value with the sign given. -/
def withSign (x : Binary64) (negative : Bool) : Binary64 := { x with negative }

/-- The quotient `num / den` divided by 2^`e`, as a quotient. -/
def unscale (num den : Nat) (e : Int) : Nat × Nat :=
  (num * Nat.pow 2 (-e).toNat, den * Nat.pow 2 e.toNat)

/-- A quotient rounded to the nearest natural number, a half to the even one. -/
def roundHalfEven (num den : Nat) : Nat :=
  let q := num / den
  let r := num % den
  if den < 2 * r ∨ (den = 2 * r ∧ q % 2 = 1) then q + 1 else q

/-- The least exponent, not below −1074, at which the quotient has at most 53
bits before its point. -/
def exponentFor (num den : Nat) : Int :=
  let e := max (-1074) ((num.log2 : Int) - (den.log2 : Int) - 53)
  let scaled := unscale num den e
  if scaled.1 / scaled.2 < Nat.pow 2 53 then e else e + 1

/-- **The binary64 value nearest to a quotient** (`den` positive), a tie going to
the even mantissa; `none` if it is beyond the greatest finite value. -/
def nearest (negative : Bool) (num den : Nat) : Option Binary64 :=
  let e := exponentFor num den
  let scaled := unscale num den e
  let m := roundHalfEven scaled.1 scaled.2
  let (m, e) := if m = Nat.pow 2 53 then (Nat.pow 2 52, e + 1) else (m, e)
  if m = 0 then some (zero negative)
  else if e ≤ 971 then some ⟨negative, m, e⟩
  else none

/-- The magnitude of a value as an exact quotient. -/
def ratio (x : Binary64) : Nat × Nat :=
  (x.mantissa * Nat.pow 2 x.exponent.toNat, Nat.pow 2 (-x.exponent).toNat)

/-- The product, rounded; its sign is that of `x`. -/
def mulMagnitude (x y : Binary64) : Option Binary64 :=
  nearest x.negative (x.ratio.1 * y.ratio.1) (x.ratio.2 * y.ratio.2)

/-- The quotient by a value other than zero, rounded; its sign is that of `x`. -/
def divMagnitude (x y : Binary64) : Option Binary64 :=
  nearest x.negative (x.ratio.1 * y.ratio.2) (x.ratio.2 * y.ratio.1)

/-- The value nearest to a natural number. -/
def ofNat (n : Nat) : Option Binary64 := nearest false n 1

/-- The value nearest to a power of ten. -/
def powerOfTen (k : Nat) : Option Binary64 := nearest false (Nat.pow 10 k) 1

/-- Divides by a power of ten in steps of at most 10^308, each rounded. -/
def downscale (x : Binary64) (k : Nat) : Option Binary64 :=
  if k ≤ 308 then
    (powerOfTen k).bind x.divMagnitude
  else if x.isZero then
    some x
  else
    (powerOfTen 308).bind fun p =>
      (x.divMagnitude p).bind fun y => downscale y (k - 308)
termination_by k

/-- **A decimal number `significand` · 10^`exponent` in rounded steps**: the
significand is rounded to a binary64 value, and that is multiplied or divided by
the binary64 value of the power of ten. `none` if the result is beyond the
greatest finite value. -/
def ofDecimal (negative : Bool) (significand : Nat) (exponent : Int) : Option Binary64 :=
  (ofNat significand).bind fun x =>
    let x := x.withSign negative
    if exponent < 0 then downscale x (-exponent).toNat
    else if x.isZero then some x
    else if exponent ≤ 308 then (powerOfTen exponent.toNat).bind x.mulMagnitude
    else none

end Binary64

end ServerConnections.Json
