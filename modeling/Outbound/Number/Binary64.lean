/-!
# Rounding to 53 bits

Token lifetimes and the fractions of JSON documents are computed in double precision. Here a double
is what it stands for, a sign and `significand · 2 ^ exponent`, and an operation on doubles is the
exact operation on rationals followed by one rounding.

* **nearest** — `roundQuotient` takes a quotient to the nearest integer, a half to the even one;
* **53 bits** — `Binary64.ofQuotient` scales a quotient so that its rounded significand has 53 bits,
  or fewer where the exponent has reached its least value;
* **exact rationals** — `nearest` rounds a rational, for arithmetic that stays far from the limits
  of the exponent.
-/

namespace Outbound.Number

/-- **Round to nearest, ties to even.** The integer nearest to `num / den`. -/
def roundQuotient (num den : Nat) : Nat :=
  let q := num / den
  let r := num % den
  if 2 * r < den then q
  else if den < 2 * r then q + 1
  else if q % 2 = 0 then q else q + 1

/-- The quotient `num / den · 2 ^ (-k)` as a quotient of naturals. -/
def scaleDown (num den : Nat) (k : Int) : Nat × Nat :=
  (num <<< (-k).toNat, den <<< k.toNat)

/-- The exponent `e` with `2 ^ e ≤ num / den < 2 ^ (e + 1)`, for a positive quotient. -/
def binaryExponent (num den : Nat) : Int :=
  let e : Int := (num.log2 : Int) - den.log2
  let scaled := scaleDown num den e
  if scaled.2 ≤ scaled.1 then e else e - 1

/-- A significand and an exponent for a quotient: 53 significant bits, but no exponent below
`least`. -/
def roundToBits (least : Int) (num den : Nat) : Nat × Int :=
  if num = 0 then (0, least) else
  let e := max (binaryExponent num den - 52) least
  let scaled := scaleDown num den e
  let m := roundQuotient scaled.1 scaled.2
  if m = 1 <<< 53 then (1 <<< 52, e + 1) else (m, e)

/-- A finite double: `±significand · 2 ^ exponent`. -/
structure Binary64 where
  /-- the sign; zero has one too -/
  negative : Bool
  significand : Nat
  exponent : Int
  deriving DecidableEq, Repr, Inhabited

namespace Binary64

/-- The least exponent of a double. -/
def leastExponent : Int := -1074

/-- The greatest exponent of a double. -/
def greatestExponent : Int := 971

/-- Zero, with its sign. -/
def zero (negative : Bool) : Binary64 := ⟨negative, 0, leastExponent⟩

/-- **Rounding a quotient.** `none` if the result is too large for a finite double. -/
def ofQuotient (num den : Nat) : Option Binary64 :=
  let (m, e) := roundToBits leastExponent num den
  if e ≤ greatestExponent then some ⟨false, m, e⟩ else none

/-- The magnitude as a quotient of naturals. -/
def quotient (x : Binary64) : Nat × Nat :=
  (x.significand <<< x.exponent.toNat, 1 <<< (-x.exponent).toNat)

/-- The product of two magnitudes, rounded. -/
def mul? (x y : Binary64) : Option Binary64 :=
  ofQuotient (x.quotient.1 * y.quotient.1) (x.quotient.2 * y.quotient.2)

/-- The quotient of two magnitudes, rounded. -/
def div? (x y : Binary64) : Option Binary64 :=
  ofQuotient (x.quotient.1 * y.quotient.2) (x.quotient.2 * y.quotient.1)

/-- The same magnitude with the sign `negative`. -/
def withSign (x : Binary64) (negative : Bool) : Binary64 := { x with negative }

end Binary64

/-- The power of two with a whole exponent, as a rational. -/
def twoPow (k : Int) : Rat := if 0 ≤ k then (2 : Rat) ^ k.toNat else 1 / (2 : Rat) ^ (-k).toNat

/-- **Rounding a rational.** The nearest number with 53 significant bits, ties to even. -/
def nearest (x : Rat) : Rat :=
  let (m, e) := roundToBits Binary64.leastExponent x.num.natAbs x.den
  let magnitude : Rat := (m : Rat) * twoPow e
  if x < 0 then -magnitude else magnitude

/-- The integer part of a rational, toward zero. -/
def truncate (x : Rat) : Int := x.num.tdiv x.den

end Outbound.Number
