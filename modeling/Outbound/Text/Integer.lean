import Outbound.Text.Blank

/-!
# Integers written in decimal

Header values and token claims hold integers as text. Reading is strict: ASCII digits only, no
blanks, one optional sign, and the value must fit its width.

* `nat?` — an unsigned run of digits of any length;
* `int64?` — an optional `+` or `-`, then digits, within 64 signed bits;
* `nat64?` — an optional `+`, then digits, within 64 unsigned bits.
-/

namespace Outbound.Text

/-- The value of a non-empty run of ASCII digits. -/
def nat? (cs : List Char) : Option Nat :=
  if !cs.isEmpty && cs.all Char.isDigit then some (Nat.ofDigitChars 10 cs 0) else none

/-- An optionally signed run of digits, of any size. -/
def int? : List Char → Option Int
  | '+' :: ds => (nat? ds).map Int.ofNat
  | '-' :: ds => (nat? ds).map fun n => -(n : Int)
  | ds => (nat? ds).map Int.ofNat

/-- The integers of 64 signed bits. -/
def FitsInt64 (n : Int) : Prop := -0x8000000000000000 ≤ n ∧ n < 0x8000000000000000

instance (n : Int) : Decidable (FitsInt64 n) := inferInstanceAs (Decidable (_ ∧ _))

/-- **Signed 64-bit integers.** Refuses what does not fit. -/
def int64? (cs : List Char) : Option Int :=
  (int? cs).filter fun n => decide (FitsInt64 n)

/-- **Unsigned 64-bit integers.** A leading `+` is read, a `-` is not. -/
def nat64? (cs : List Char) : Option Nat :=
  let digits := match cs with
    | '+' :: ds => ds
    | ds => ds
  (nat? digits).filter fun n => decide (n < 1 <<< 64)

end Outbound.Text
