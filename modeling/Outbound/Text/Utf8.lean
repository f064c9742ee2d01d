/-!
# UTF-8

Text on the wire is UTF-8. `encode` writes a string's bytes; `scan` reads bytes back and reports
every maximal run of bytes that begins a character but does not finish one.

* **strict** — `decode` answers only if nothing was left unfinished;
* **lossy** — `decodeLossy` puts one replacement character where `scan` reports a fault.

The scan is a machine over single bytes, so that a byte which breaks a sequence can begin the next
one.
-/

namespace Outbound.Text.Utf8

/-- The bytes of a list of characters. -/
def encode (cs : List Char) : List UInt8 := cs.flatMap String.utf8EncodeChar

/-- The bytes of a string. -/
def bytes (s : String) : List UInt8 := encode s.toList

/-- **Between two bytes.** Either no sequence is open, or one is: the bits read so far, how many
bytes are missing, and the range in which the next one must lie. -/
inductive Pending
  | idle
  | midway (bits : Nat) (missing : Nat) (low high : UInt8)

/-- A byte that stands where a character begins. The second byte of some sequences has a narrower
range, which rules out overlong forms, surrogates and values past the last code point. -/
def begin (b : UInt8) : Option (Option Char) × Pending :=
  if b < 0x80 then (some (some (Char.ofNat b.toNat)), .idle)
  else if b < 0xC2 then (some none, .idle)
  else if b < 0xE0 then (none, .midway (b.toNat - 0xC0) 1 0x80 0xBF)
  else if b = 0xE0 then (none, .midway 0 2 0xA0 0xBF)
  else if b = 0xED then (none, .midway 13 2 0x80 0x9F)
  else if b < 0xF0 then (none, .midway (b.toNat - 0xE0) 2 0x80 0xBF)
  else if b = 0xF0 then (none, .midway 0 3 0x90 0xBF)
  else if b < 0xF4 then (none, .midway (b.toNat - 0xF0) 3 0x80 0xBF)
  else if b = 0xF4 then (none, .midway 4 3 0x80 0x8F)
  else (some none, .idle)

/-- **Scanning.** Each item is a character, or `none` for one maximal faulty run. A byte that does
not continue the open sequence closes it as faulty and begins anew. -/
def scan : Pending → List UInt8 → List (Option Char)
  | .idle, [] => []
  | .midway .., [] => [none]
  | .idle, b :: bs =>
    match begin b with
    | (some item, next) => item :: scan next bs
    | (none, next) => scan next bs
  | .midway bits missing low high, b :: bs =>
    if low ≤ b && b ≤ high then
      let bits := bits * 64 + (b.toNat - 0x80)
      match missing with
      | 0 | 1 => some (Char.ofNat bits) :: scan .idle bs
      | more + 1 => scan (.midway bits more 0x80 0xBF) bs
    else
      match begin b with
      | (some item, next) => none :: item :: scan next bs
      | (none, next) => none :: scan next bs

/-- **Strict decoding.** `none` if any sequence is faulty. -/
def decode (bs : List UInt8) : Option (List Char) := (scan .idle bs).mapM id

/-- **Lossy decoding.** One replacement character for each maximal faulty run. -/
def decodeLossy (bs : List UInt8) : List Char := (scan .idle bs).map (·.getD '\uFFFD')

/-- The string whose bytes these are, if there is one. -/
def string? (bs : List UInt8) : Option String := (decode bs).map String.ofList

end Outbound.Text.Utf8
