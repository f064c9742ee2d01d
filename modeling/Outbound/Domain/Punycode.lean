/-!
# Punycode

A label with characters beyond ASCII is written with letters, digits and hyphens only (RFC 3492).
Its ASCII characters come first. Each other one is then a step onward in an order of all pairs of a
code point and a place in the text, and the steps are numbers in base 36 without separators: a digit
below a **threshold** ends its number. The thresholds follow a **bias**, which adapts to the size of
the steps.
-/

namespace Outbound.Domain.Punycode

/-- The threshold at a digit; its `rank` is 36 at the front of a number and grows by 36. -/
def threshold (bias rank : Nat) : Nat := max 1 (min 26 (rank - bias))

/-- The bias after a step, reduced to the scale of `threshold`. The first argument bounds the number
of divisions. -/
def settle : Nat → Nat → Nat → Nat
  | 0, base, delta => base + 36 * delta / (delta + 38)
  | fuel + 1, base, delta =>
    if 455 < delta then settle fuel (base + 36) (delta / 35)
    else base + 36 * delta / (delta + 38)

/-- **The bias** after a step of a size, in a text that now has `count` characters. -/
def adapt (delta count : Nat) (first : Bool) : Nat :=
  let damped := if first then delta / 700 else delta / 2
  settle delta 0 (damped + damped / count)

/-- The value of a digit: a letter counts from 0, a decimal digit from 26. -/
def digit? (c : Char) : Option Nat :=
  if c.isLower then some (c.toNat - 'a'.toNat)
  else if c.isDigit then some (c.toNat - '0'.toNat + 26)
  else none

/-- The digit of a value. -/
def digit (n : Nat) : Char :=
  if n < 26 then Char.ofNat ('a'.toNat + n) else Char.ofNat ('0'.toNat + (n - 26))

/-! ## Decoding -/

/-- **Between two digits.** The text so far, the pair that the last step led to, the bias, and of
the open number the sum, the weight of the next digit and its rank. -/
structure Reading where
  text : List Char
  code : Nat := 0x80
  place : Nat := 0
  bias : Nat := 72
  sum : Nat := 0
  weight : Nat := 1
  rank : Nat := 36

/-- **One digit.** The digit that ends a number makes the step and inserts a character. -/
def Reading.take (r : Reading) (c : Char) : Option Reading := do
  let d ← digit? c
  let sum := r.sum + d * r.weight
  let t := threshold r.bias r.rank
  if t ≤ d then return { r with sum, weight := r.weight * (36 - t), rank := r.rank + 36 }
  let count := r.text.length + 1
  let code := r.code + (r.place + sum) / count
  let place := (r.place + sum) % count
  if ¬ code.isValidChar then none
  return {
    text := r.text.insertIdx place (Char.ofNat code)
    code
    place := place + 1
    bias := adapt sum count (r.place == 0) }

/-- The ASCII characters and the digits: what stands before and after the last hyphen. A hyphen at
the front belongs to the digits, where it has no place. -/
def halves (cs : List Char) : List Char × List Char :=
  match cs.reverse.span (· ≠ '-') with
  | (back, _ :: c :: front) => ((c :: front).reverse, back.reverse)
  | _ => ([], cs)

/-- **Decoding.** -/
def decode? (cs : List Char) : Option (List Char) := do
  if 2000 < cs.length then none
  let (text, digits) := halves cs
  let r ← digits.foldlM Reading.take { text }
  if r.rank = 36 then some r.text else none

/-! ## Encoding -/

/-- **A number** in digits, the first of them of a rank. The first argument bounds how many there
are. -/
def number (bias : Nat) : Nat → Nat → Nat → List Char
  | 0, _, _ => []
  | fuel + 1, rank, n =>
    let t := threshold bias rank
    if n < t then [digit n]
    else digit (t + (n - t) % (36 - t)) :: number bias fuel (rank + 36) ((n - t) / (36 - t))

/-- **Between two characters.** What is written, how many characters that stands for, the size of
the next step so far, and the bias. -/
structure Writing where
  out : List Char
  count : Nat
  delta : Nat := 0
  bias : Nat := 72

/-- A character that a pass over the text meets on its way to those of a code point: a lower one is
a place to step over, and one of that code point ends a step. -/
def Writing.meet (basic code : Nat) (w : Writing) (c : Char) : Writing :=
  if c.toNat < code then { w with delta := w.delta + 1 }
  else if c.toNat = code then
    { out := w.out ++ number w.bias (w.delta + 1) 36 w.delta
      count := w.count + 1
      bias := adapt w.delta (w.count + 1) (w.count == basic) }
  else w

/-- **Passes over the text**, one for each code point in it from `code` on. The first argument
bounds their number. -/
def passes (cs : List Char) (basic : Nat) : Nat → Nat → Writing → Writing
  | 0, _, w => w
  | fuel + 1, code, w =>
    match ((cs.map Char.toNat).filter (code ≤ ·)).min? with
    | none => w
    | some next =>
      let w := { w with delta := w.delta + (next - code) * (w.count + 1) }
      let w := cs.foldl (Writing.meet basic next) w
      passes cs basic fuel (next + 1) { w with delta := w.delta + 1 }

/-- **Encoding.** -/
def encode (cs : List Char) : List Char :=
  let ascii := cs.filter (·.toNat < 0x80)
  let hyphen := if ascii.isEmpty then [] else ['-']
  (passes cs ascii.length cs.length 0x80 { out := ascii ++ hyphen, count := ascii.length }).out

end Outbound.Domain.Punycode
