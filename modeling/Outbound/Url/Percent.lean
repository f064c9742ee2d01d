import Outbound.Text.Ascii
import Outbound.Text.Utf8

/-!
# Percent-encoding

Each part of a URL has a set of ASCII characters that it cannot hold as they are. These, and all
characters beyond ASCII, are written as `%XX` for each byte of their UTF-8 form.

* **sets** — `inControls`, `inFragment`, `inQuery`, `inPath` and `inUserinfo`, each on top of an
  earlier one;
* **encoding** — a `%` that is there already stays.
-/

namespace Outbound.Url

open Outbound.Text

/-- The controls, which no part can hold. -/
def inControls (c : Char) : Bool := c.toNat < 0x20 || c.toNat == 0x7F

/-- What a fragment cannot hold. -/
def inFragment (c : Char) : Bool := inControls c || [' ', '"', '<', '>', '\x60'].contains c

/-- What a query cannot hold; with a special scheme, the apostrophe too. -/
def inQuery (special : Bool) (c : Char) : Bool :=
  inControls c || [' ', '"', '#', '<', '>'].contains c || (special && c == '\'')

/-- What a path cannot hold. -/
def inPath (c : Char) : Bool := inFragment c || ['#', '?', '\x7b', '\x7d'].contains c

/-- What a user name or a password cannot hold. -/
def inUserinfo (c : Char) : Bool :=
  inPath c || ['/', ':', ';', '=', '@', '[', '\\', ']', '^', '|'].contains c

/-- One byte as `%XX`. -/
def percentByte (b : UInt8) : List Char :=
  ['%', hexUpper (b.toNat / 16), hexUpper (b.toNat % 16)]

/-- **Encoding** the characters of a set, and those beyond ASCII. -/
def percentEncode (set : Char → Bool) (cs : List Char) : List Char :=
  cs.flatMap fun c =>
    if 0x80 ≤ c.toNat || set c then (String.utf8EncodeChar c).flatMap percentByte else [c]

/-- **Decoding** to bytes. A `%` that no two digits follow is itself. -/
def percentDecode : List Char → List UInt8
  | [] => []
  | '%' :: h :: l :: rest =>
    match hexValue? h, hexValue? l with
    | some h, some l => UInt8.ofNat (h * 16 + l) :: percentDecode rest
    | _, _ => 0x25 :: percentDecode (h :: l :: rest)
  | c :: rest => String.utf8EncodeChar c ++ percentDecode rest

end Outbound.Url
