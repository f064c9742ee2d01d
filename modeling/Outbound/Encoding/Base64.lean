import Outbound.Text.Utf8

/-!
# Base 64

Basic credentials are written in base 64 with the standard alphabet and padding; the segments of a
compact token use the URL-safe alphabet without padding.

* **writing** — `encode` turns three bytes into four symbols;
* **reading** — `decode` accepts only canonical unpadded text: no lone last symbol, and no bit set
  that belongs to no byte. `decodePadded` asks for the padding on top of that.
-/

namespace Outbound.Encoding.Base64

/-- **Alphabets.** They differ in their last two symbols. -/
inductive Alphabet
  | standard
  | urlSafe
  deriving DecidableEq, Repr

/-- The symbol of a six-bit value. -/
def Alphabet.symbol (a : Alphabet) (n : Nat) : Char :=
  if n < 26 then Char.ofNat (65 + n)
  else if n < 52 then Char.ofNat (71 + n)
  else if n < 62 then Char.ofNat (n - 4)
  else match a with
    | .standard => if n = 62 then '+' else '/'
    | .urlSafe => if n = 62 then '-' else '_'

/-- The six-bit value of a symbol. -/
def Alphabet.value? (a : Alphabet) (c : Char) : Option Nat :=
  let n := c.toNat
  if 65 ≤ n ∧ n ≤ 90 then some (n - 65)
  else if 97 ≤ n ∧ n ≤ 122 then some (n - 71)
  else if 48 ≤ n ∧ n ≤ 57 then some (n + 4)
  else match a with
    | .standard => if c = '+' then some 62 else if c = '/' then some 63 else none
    | .urlSafe => if c = '-' then some 62 else if c = '_' then some 63 else none

variable (a : Alphabet)

/-- **Encoding.** Three bytes become four symbols; what is left at the end becomes two or three,
filled up with `=` if padding is asked for. -/
def encode (padded : Bool) : List UInt8 → List Char
  | [] => []
  | [x] =>
    a.symbol (x.toNat / 4) :: a.symbol (x.toNat % 4 * 16) :: (if padded then ['=', '='] else [])
  | [x, y] =>
    a.symbol (x.toNat / 4) :: a.symbol (x.toNat % 4 * 16 + y.toNat / 16) ::
      a.symbol (y.toNat % 16 * 4) :: (if padded then ['='] else [])
  | x :: y :: z :: rest =>
    a.symbol (x.toNat / 4) :: a.symbol (x.toNat % 4 * 16 + y.toNat / 16) ::
      a.symbol (y.toNat % 16 * 4 + z.toNat / 64) :: a.symbol (z.toNat % 64) :: encode padded rest

/-- **Strict decoding of unpadded text.** Refuses foreign symbols, a lone last symbol, and leftover
bits that are not zero. -/
def decode : List Char → Option (List UInt8)
  | [] => some []
  | [_] => none
  | [p, q] => do
    let p ← a.value? p
    let q ← a.value? q
    if q % 16 = 0 then some [UInt8.ofNat (p * 4 + q / 16)] else none
  | [p, q, r] => do
    let p ← a.value? p
    let q ← a.value? q
    let r ← a.value? r
    if r % 4 = 0 then
      some [UInt8.ofNat (p * 4 + q / 16), UInt8.ofNat (q % 16 * 16 + r / 4)]
    else none
  | p :: q :: r :: s :: rest => do
    let p ← a.value? p
    let q ← a.value? q
    let r ← a.value? r
    let s ← a.value? s
    let tail ← decode rest
    some (UInt8.ofNat (p * 4 + q / 16) :: UInt8.ofNat (q % 16 * 16 + r / 4) ::
      UInt8.ofNat (r % 4 * 64 + s) :: tail)

/-- **Strict decoding of padded text.** The length is a multiple of four, and only the last group
may hold one or two `=`, at its end. -/
def decodePadded : List Char → Option (List UInt8)
  | [] => some []
  | [p, q, '=', '='] => decode a [p, q]
  | [p, q, r, '='] => decode a [p, q, r]
  | p :: q :: r :: s :: rest => do
    let head ← decode a [p, q, r, s]
    let tail ← decodePadded rest
    some (head ++ tail)
  | _ => none

end Outbound.Encoding.Base64
