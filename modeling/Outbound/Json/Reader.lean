import Outbound.Json.Value
import Outbound.Text.Utf8

/-!
# Reading JSON

A reader consumes bytes from the front and stops at the first fault, so that of two faults in a
document the earlier one is reported.

* **faults** — `malformed` for text that no document begins with, `truncated` for text that ends
  too early, `unfit` for a value of the wrong kind;
* **nesting** — `value` is given the number of arrays and objects it may still open, and its
  recursion is on that number;
* **members and items** — `members` and `items` read a container once and for all; they are handed
  what to do with each entry.
-/

namespace Outbound.Json

open Outbound.Number Outbound.Text

/-- **Faults.** Only a value of the wrong kind comes with a message, and with the names of the
fields that lead to it. -/
inductive ReadError
  | malformed
  | truncated
  | unfit (message : String) (path : List String)
  deriving DecidableEq, Repr

/-- The same fault, seen from the object that holds the value as its field `name`. -/
def ReadError.within (name : String) : ReadError → ReadError
  | .unfit message path => .unfit message (name :: path)
  | e => e

/-- A reader takes bytes from the front. -/
abbrev Reader := StateT (List UInt8) (Except ReadError)

namespace Reader

/-- The number of arrays and objects that may be open at a time. -/
def nestingLimit : Nat := 127

/-- The character of an ASCII byte. -/
def ascii (b : UInt8) : Char := Char.ofNat b.toNat

/-- The blanks between the tokens of a document. -/
def isGap (b : UInt8) : Bool := b == 0x20 || b == 0x0A || b == 0x09 || b == 0x0D

/-- The same reader, whose faults are those of a value that is the field `name`. -/
def within {α : Type} (name : String) (reader : Reader α) : Reader α := fun bs =>
  (reader bs).mapError (.within name)

/-- Skips blanks. -/
def gap : Reader Unit := modify fun bs => bs.dropWhile isGap

/-- The first character after blanks, which stays; `none` at the end. -/
def peek? : Reader (Option Char) := do
  gap
  return (← get).head?.map ascii

/-- The first character after blanks, which stays. -/
def peek : Reader Char := do
  match ← peek? with
  | some c => return c
  | none => throw .truncated

/-- Drops one byte. -/
def skip : Reader Unit := modify (·.drop 1)

/-- Expects the bytes of a word. -/
def word : List Char → Reader Unit
  | [] => return
  | c :: cs => do
    match ← get with
    | [] => throw .truncated
    | b :: rest => if ascii b = c then do set rest; word cs else throw .malformed

/-- Expects one character after blanks. -/
def expect (c : Char) : Reader Unit := do
  if (← peek) = c then skip else throw .malformed

/-- The end of the document: nothing but blanks may follow. -/
def finish : Reader Unit := do
  match ← peek? with
  | none => return
  | some _ => throw .malformed

/-! ## Strings -/

/-- The value of four hexadecimal digits. -/
def hexQuad (a b c d : UInt8) : Option Nat := do
  let a ← hexValue? (ascii a)
  let b ← hexValue? (ascii b)
  let c ← hexValue? (ascii c)
  let d ← hexValue? (ascii d)
  return ((a * 16 + b) * 16 + c) * 16 + d

/-- The bytes of the character that a one-letter escape stands for. -/
def shortEscape? (c : Char) : Option UInt8 :=
  match c with
  | '"' => some 0x22
  | '\\' => some 0x5C
  | '/' => some 0x2F
  | 'b' => some 0x08
  | 'f' => some 0x0C
  | 'n' => some 0x0A
  | 'r' => some 0x0D
  | 't' => some 0x09
  | _ => none

/-- Puts bytes in front of what a reading of the rest yields. -/
def prepend (front : List UInt8) :
    Except ReadError (List UInt8 × List UInt8) → Except ReadError (List UInt8 × List UInt8)
  | .ok (bs, rest) => .ok (front ++ bs, rest)
  | .error e => .error e

/-- The bytes of the character with a code point. -/
def pointBytes (n : Nat) : List UInt8 := String.utf8EncodeChar (Char.ofNat n)

/-- **The inside of a string**, from after the opening quote to after the closing one, as bytes with
the escapes resolved. An escaped high surrogate must be followed by an escaped low one. -/
def stringBytes : List UInt8 → Except ReadError (List UInt8 × List UInt8)
  | [] => .error .truncated
  | b :: rest =>
    if b = 0x22 then .ok ([], rest)
    else if b < 0x20 then .error .malformed
    else if b ≠ 0x5C then prepend [b] (stringBytes rest)
    else match rest with
    | [] => .error .truncated
    | e :: rest =>
      match shortEscape? (ascii e) with
      | some c => prepend [c] (stringBytes rest)
      | none =>
        if ascii e ≠ 'u' then .error .malformed
        else match rest with
        | p :: q :: r :: s :: rest =>
          match hexQuad p q r s with
          | none => .error .malformed
          | some n =>
            if n < 0xD800 ∨ 0xDFFF < n then prepend (pointBytes n) (stringBytes rest)
            else if 0xDC00 ≤ n then .error .malformed
            else match rest with
            | [] => .error .truncated
            | slash :: rest =>
              if slash ≠ 0x5C then .error .malformed
              else match rest with
              | [] => .error .truncated
              | u :: rest =>
                if ascii u ≠ 'u' then .error .malformed
                else match rest with
                | p :: q :: r :: s :: rest =>
                  match hexQuad p q r s with
                  | none => .error .malformed
                  | some m =>
                    if m < 0xDC00 ∨ 0xDFFF < m then .error .malformed
                    else
                      let point := 0x10000 + (n - 0xD800) * 0x400 + (m - 0xDC00)
                      prepend (pointBytes point) (stringBytes rest)
                | _ => .error .truncated
        | _ => .error .truncated

/-- **A string**, after its opening quote. Its bytes must be well-formed UTF-8. -/
def string : Reader String := do
  match stringBytes (← get) with
  | .error e => throw e
  | .ok (bs, rest) =>
    match Utf8.string? bs with
    | some s => do set rest; return s
    | none => throw .malformed

/-! ## Numbers -/

/-- **A numeral as written**: sign, digits before the point, digits after it, and the exponent with
its sign. -/
structure Numeral where
  negative : Bool
  whole : List Nat
  fraction : List Nat
  exponent : Option (Bool × List Nat)
  deriving DecidableEq, Repr

/-- Takes the digits at the front. -/
def digits : Reader (List Nat) := do
  let bs ← get
  set (bs.dropWhile fun b => (ascii b).isDigit)
  return (bs.takeWhile fun b => (ascii b).isDigit).map fun b => b.toNat - 48

/-- Takes at least one digit. -/
def someDigits : Reader (List Nat) := do
  match ← get with
  | [] => throw .truncated
  | b :: _ => if (ascii b).isDigit then digits else throw .malformed

/-- The first character, without skipping blanks. -/
def here? : Reader (Option Char) := return (← get).head?.map ascii

/-- The digits after a point, if there is one. -/
def fraction : Reader (List Nat) := do
  if (← here?) = some '.' then do skip; someDigits else return []

/-- The exponent after its mark, if there is one: whether it is negative, and its digits. -/
def exponent : Reader (Option (Bool × List Nat)) := do
  if (← here?) = some 'e' ∨ (← here?) = some 'E' then do
    skip
    let sign ← here?
    if sign = some '-' ∨ sign = some '+' then skip
    return some (decide (sign = some '-'), ← someDigits)
  else return none

/-- A numeral: no superfluous leading zero, and a digit after a point and after an exponent mark. -/
def numeral : Reader Numeral := do
  let sign ← here?
  if sign = some '-' then skip
  let whole ← someDigits
  if whole.head? = some 0 ∧ 1 < whole.length then throw .malformed
  return ⟨decide (sign = some '-'), whole, ← fraction, ← exponent⟩

/-- Takes up digits as long as the number fits 64 unsigned bits; the digits left over stay. -/
def absorb (n : Nat) : List Nat → Nat × List Nat
  | [] => (n, [])
  | d :: ds => if n * 10 + d < 1 <<< 64 then absorb (n * 10 + d) ds else (n, d :: ds)

/-- A power of ten as a double, for exponents up to 308. -/
def powerOfTen (k : Nat) : Option Binary64 := Binary64.ofQuotient (Nat.pow 10 k) 1

/-- **A significand times a power of ten.** One multiplication or division of doubles, after
divisions by `10 ^ 308` for very small values; two of these reach zero. `none` if the result is too
large. -/
def scaleByTen (x : Binary64) (exponent : Int) : Nat → Option Binary64
  | 0 => some (.zero false)
  | more + 1 =>
    if exponent.natAbs ≤ 308 then do
      let power ← powerOfTen exponent.natAbs
      if 0 ≤ exponent then x.mul? power else x.div? power
    else if x.significand = 0 then some x
    else if 0 ≤ exponent then none
    else do
      let small ← x.div? (← powerOfTen 308)
      scaleByTen small (exponent + 308) more

/-- The exponent that a numeral adds, within 32 signed bits; `none` if its digits do not fit. -/
def clampExponent (n : Int) : Int := max (-0x80000000) (min n 0x7FFFFFFF)

/-- **The value of a numeral.** Whole numbers that fit 64 bits stay whole. Otherwise the first
digits that fit 64 bits make the significand, the digits before the point that did not fit count as
powers of ten, those after it are dropped. A negative zero is a double. -/
def Numeral.value? (n : Numeral) : Option Number :=
  let (head, left) := absorb 0 n.whole
  if left.isEmpty ∧ n.fraction.isEmpty ∧ n.exponent.isNone ∧
      (n.negative = false ∨ (head ≠ 0 ∧ head ≤ 1 <<< 63)) then
    some (.whole (if n.negative then -(head : Int) else head))
  else
    let (significand, unread) := absorb head n.fraction
    let power : Int := left.length - (n.fraction.length - unread.length : Nat)
    let magnitude : Option Binary64 := match n.exponent with
      | none => do scaleByTen (← Binary64.ofQuotient significand 1) power 4
      | some (down, ds) =>
        let e := Nat.ofDigitChars 10 (ds.map fun d => Char.ofNat (48 + d)) 0
        if 1 <<< 31 ≤ e then
          if significand ≠ 0 ∧ !down then none else some (.zero false)
        else do
          let total := clampExponent (if down then power - e else power + e)
          scaleByTen (← Binary64.ofQuotient significand 1) total 4
    magnitude.map fun x => .double (x.withSign n.negative)

/-- **A number.** One too large for a double is no number. -/
def number : Reader Number := do
  match (← numeral).value? with
  | some n => return n
  | none => throw .malformed

/-! ## Containers -/

/-- One item after another, each read by `item`, until the closing bracket. -/
def itemsFrom {α : Type} (item : Reader α) (first : Bool) : Nat → Reader (List α)
  | 0 => throw .truncated
  | more + 1 => do
    let c ← peek
    if c = ']' then do skip; return []
    if !first then expect ','
    if !first ∧ (← peek) = ']' then throw .malformed
    let a ← item
    return a :: (← itemsFrom item false more)

/-- **The items of an array**, after its opening bracket. Each takes at least one byte, so their
number is bounded by the length of the text. -/
def items {α : Type} (item : Reader α) : Reader (List α) := do
  itemsFrom item true ((← get).length + 1)

/-- One member after another, each handed with its name to `member`, until the closing brace. -/
def membersFrom {κ σ : Type} (key : Reader κ) (member : κ → σ → Reader σ) (first : Bool) :
    Nat → σ → Reader σ
  | 0, _ => throw .truncated
  | more + 1, s => do
    let c ← peek
    if c = '\x7d' then do skip; return s
    if !first then expect ','
    expect '"'
    let name ← key
    membersFrom key member false more (← member name s)

/-- **The members of an object**, after its opening brace, folded over a state. `key` reads the name
after its opening quote, `member` the colon and the value. -/
def members {κ σ : Type} (key : Reader κ) (member : κ → σ → Reader σ) (s : σ) : Reader σ := do
  membersFrom key member true ((← get).length + 1) s

/-! ## Values -/

/-- A value that is no container, given its first character. -/
def scalar (c : Char) : Reader Value := do
  match c with
  | 'n' => do word "null".toList; return .null
  | 't' => do word "true".toList; return .bool true
  | 'f' => do word "false".toList; return .bool false
  | '"' => do skip; return .string (← string)
  | c => if c = '-' ∨ c.isDigit then return .number (← number) else throw .malformed

/-- **Any value**, with at most `nesting` containers open at a time. -/
def value : Nat → Reader Value
  | 0 => do
    let c ← peek
    if c = '[' ∨ c = '\x7b' then throw .malformed else scalar c
  | nesting + 1 => do
    let c ← peek
    if c = '[' then do
      skip
      return .array (← items (value nesting))
    else if c = '\x7b' then do
      skip
      let entries ← members string (fun name (entries : List (String × Value)) => do
        expect ':'
        return (name, ← value nesting) :: entries) []
      return .object entries.reverse
    else scalar c

/-- Reads a whole document with `reader`. -/
def run {α : Type} (reader : Reader α) (bs : List UInt8) : Except ReadError α :=
  (do let a ← reader; finish; return a : Reader α).run' bs

end Reader

end Outbound.Json
