import Outbound.Text.Composite
import Outbound.Text.Expansion

/-!
# Normal form

Some texts are the same although their characters differ: `é` may be one character or a letter and
an accent, and accents above and below a letter may come in either order. The **normal form**
(Unicode normalization form C) picks one of them:

* **apart** — every composite becomes its parts;
* **ordered** — marks in a row are sorted by class, those of one class staying in order;
* **together** — a base takes in each mark that it makes a composite with.
-/

namespace Outbound.Text

/-- **Taking a code point apart**, down to parts that have no parts. The first argument bounds the
depth; no character needs more than three levels. -/
def apart : Nat → Nat → List Nat
  | 0, n => [n]
  | depth + 1, n =>
    match (expansion? n).or (parts? n) with
    | some ns => ns.flatMap (apart depth)
    | none => [n]

/-- A code point in front of ordered ones: behind the marks of a lower class. -/
def place (n : Nat) : List Nat → List Nat
  | [] => [n]
  | m :: ms =>
    if combiningClass m ≠ 0 ∧ combiningClass m < combiningClass n then m :: place n ms
    else n :: m :: ms

/-- **Ordering.** A code point of class zero stays where it is, and no mark passes it. -/
def ordered (ns : List Nat) : List Nat := ns.foldr place []

/-- **Putting together**, given a base and the marks behind it that it has not taken in, the last
one first. Such a mark stands in the way of what follows unless that has a higher class. -/
def together (base : Nat) (kept : List Nat) : List Nat → List Nat
  | [] => base :: kept.reverse
  | n :: ns =>
    let reachable := kept.head?.all (combiningClass · < combiningClass n)
    match if reachable then composite? base n else none with
    | some whole => together whole kept ns
    | none =>
      if combiningClass n = 0 then base :: kept.reverse ++ together n [] ns
      else together base (n :: kept) ns

/-- **The normal form.** Below the first mark every text is normal. -/
def normal (cs : List Char) : List Char :=
  if cs.all (·.toNat < 0x300) then cs
  else
    match ordered (cs.flatMap fun c => apart 4 c.toNat) with
    | [] => []
    | n :: ns => (together n [] ns).map Char.ofNat

end Outbound.Text
