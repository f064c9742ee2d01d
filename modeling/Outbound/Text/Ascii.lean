/-!
# ASCII case and hexadecimal digits

Names of headers, hosts and authentication types compare without regard to the case of ASCII
letters; every other character is compared as it is.
-/

namespace Outbound.Text

/-- The lower-case form of an ASCII letter; every other character as it is. -/
def lower (s : String) : String := s.map Char.toLower

/-- **Equal up to ASCII case.** -/
def sameIgnoringCase (s t : String) : Bool := lower s == lower t

/-- A hexadecimal digit in upper case, for values below sixteen. -/
def hexUpper (n : Nat) : Char :=
  if n < 10 then Char.ofNat (48 + n) else Char.ofNat (55 + n)

/-- A hexadecimal digit in lower case, for values below sixteen. -/
def hexLower (n : Nat) : Char :=
  if n < 10 then Char.ofNat (48 + n) else Char.ofNat (87 + n)

/-- The value of a hexadecimal digit in either case. -/
def hexValue? (c : Char) : Option Nat :=
  if c.isDigit then some (c.toNat - 48)
  else if 'a' ≤ c ∧ c ≤ 'f' then some (c.toNat - 87)
  else if 'A' ≤ c ∧ c ≤ 'F' then some (c.toNat - 55)
  else none

/-- The shortest lower-case hexadecimal numeral of a number. -/
def hexNumeral (n : Nat) : String := String.ofList (Nat.toDigits 16 n)

end Outbound.Text
