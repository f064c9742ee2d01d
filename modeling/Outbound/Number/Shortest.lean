import Outbound.Number.Binary64

/-!
# The fewest digits that read back

A double is written with the fewest decimal digits from which reading gives it back; among those of
that length, the nearest.

* **readers' interval** — every real within `lower x` and `upper x` rounds to `x`; the ends belong
  to it iff the significand is even;
* **grids** — on the grid of multiples of a power of ten the interval holds a point iff it holds one
  of the two neighbours of the value, so it is enough to test these, from the coarsest grid to the
  finest.
-/

namespace Outbound.Number

/-- Digits and a power of ten: `digits · 10 ^ power`. -/
structure Decimal where
  digits : Nat
  power : Int
  deriving DecidableEq, Repr

namespace Binary64

/-- The quotient `n · 2 ^ k` as a pair of naturals. -/
def scaled (n : Nat) (k : Int) : Nat × Nat := (n <<< k.toNat, 1 <<< (-k).toNat)

/-- Half the distance to the next double below is smaller at a power of two. -/
def isNarrowBelow (x : Binary64) : Bool :=
  x.significand == 1 <<< 52 && decide (leastExponent < x.exponent)

/-- The least real that reads back, in quarters of the unit. -/
def lower (x : Binary64) : Nat × Nat :=
  scaled (4 * x.significand - (if x.isNarrowBelow then 1 else 2)) (x.exponent - 2)

/-- The greatest real that reads back, in quarters of the unit. -/
def upper (x : Binary64) : Nat × Nat := scaled (4 * x.significand + 2) (x.exponent - 2)

/-- Whether the decimal `n · 10 ^ p` rounds to the double. -/
def readsBack (x : Binary64) (n : Nat) (p : Int) : Bool :=
  let num := n * Nat.pow 10 p.toNat
  let den := Nat.pow 10 (-p).toNat
  let lo := x.lower
  let hi := x.upper
  if x.significand % 2 == 0 then lo.1 * den ≤ num * lo.2 && num * hi.2 ≤ hi.1 * den
  else lo.1 * den < num * lo.2 && num * hi.2 < hi.1 * den

/-- The value on the grid of `10 ^ p`: the neighbour below, and twice the remainder compared with
the step. -/
def onGrid (x : Binary64) (p : Int) : Nat × Ordering :=
  let (num, den) := x.quotient
  let num := num * Nat.pow 10 (-p).toNat
  let den := den * Nat.pow 10 p.toNat
  (num / den, compare (2 * (num % den)) den)

/-- The point of the grid of `10 ^ p` that reads back and is nearest, if there is one. -/
def gridPoint? (x : Binary64) (p : Int) : Option Nat :=
  let (below, half) := x.onGrid p
  let above := below + 1
  match x.readsBack below p, x.readsBack above p with
  | true, false => some below
  | false, true => some above
  | true, true =>
    match half with
    | .lt => some below
    | .gt => some above
    | .eq => some (if below % 2 = 0 then below else above)
  | false, false => none

/-- Tries the grids from `10 ^ p` on downwards, at most `tries` of them. -/
def firstGrid (x : Binary64) (p : Int) : Nat → Option Decimal
  | 0 => none
  | tries + 1 =>
    match x.gridPoint? p with
    | some n => if n = 0 then firstGrid x (p - 1) tries else some ⟨n, p⟩
    | none => firstGrid x (p - 1) tries

/-- The exponent of the leading decimal digit, for a positive magnitude: `10 ^ e ≤ value`. -/
def decimalExponent (x : Binary64) : Int :=
  let (num, den) := x.quotient
  if den ≤ num then ((Nat.toDigits 10 (num / den)).length : Int) - 1
  else
    let guess := (Nat.toDigits 10 (den / num)).length
    if den ≤ num * Nat.pow 10 (guess - 1) then 1 - (guess : Int) else -(guess : Int)

/-- Moves the zeros at the end of the digits into the power of ten, at most `tries` of them. -/
def dropZeros : Nat → Decimal → Decimal
  | 0, d => d
  | tries + 1, d =>
    if d.digits % 10 = 0 ∧ d.digits ≠ 0 then dropZeros tries ⟨d.digits / 10, d.power + 1⟩ else d

/-- **Shortest digits.** Of a magnitude above zero; seventeen digits always suffice. -/
def shortest (x : Binary64) : Decimal :=
  match x.firstGrid (x.decimalExponent + 1) 19 with
  | some d => dropZeros 20 d
  | none => ⟨x.significand, 0⟩

end Binary64

end Outbound.Number
