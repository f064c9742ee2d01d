import Outbound.Text.Ascii
import Outbound.Text.Utf8

/-!
# URL-encoded forms

A token request carries its parameters as `application/x-www-form-urlencoded` pairs.

* **writing** — `encode` joins `name=value` pairs with `&`; in both parts a space becomes `+`,
  letters, digits and `*-._` stay, and every other byte of the UTF-8 text becomes `%XX`;
* **reading** — `parse` undoes this: it skips empty pieces, splits each at its first `=`, and reads
  `+`, `%XX` and plain bytes.
-/

namespace Outbound.Encoding.Form

open Outbound.Text

/-- The bytes that stand for themselves. -/
def isPlain (b : UInt8) : Bool :=
  let c := Char.ofNat b.toNat
  c.isAlphanum || c == '*' || c == '-' || c == '.' || c == '_'

/-- The written form of one byte. -/
def encodeByte (b : UInt8) : List Char :=
  if b = 0x20 then ['+']
  else if isPlain b then [Char.ofNat b.toNat]
  else ['%', hexUpper (b.toNat / 16), hexUpper (b.toNat % 16)]

/-- The written form of a name or a value. -/
def encodePart (s : String) : List Char := (Utf8.bytes s).flatMap encodeByte

/-- **Writing a form.** The pairs in order. -/
def encode (pairs : List (String × String)) : String :=
  String.ofList <| ['&'].intercalate <|
    pairs.map fun (name, value) => encodePart name ++ '=' :: encodePart value

/-- The bytes that a written name or value stands for. A `%` that no two digits follow is itself. -/
def decodeBytes : List Char → List UInt8
  | [] => []
  | '+' :: rest => 0x20 :: decodeBytes rest
  | '%' :: h :: l :: rest =>
    match hexValue? h, hexValue? l with
    | some h, some l => UInt8.ofNat (h * 16 + l) :: decodeBytes rest
    | _, _ => 0x25 :: decodeBytes (h :: l :: rest)
  | c :: rest => String.utf8EncodeChar c ++ decodeBytes rest

/-- The text that a written name or value stands for. -/
def decodePart (cs : List Char) : String := String.ofList (Utf8.decodeLossy (decodeBytes cs))

/-- Splits at the first `=`; without one the value is empty. -/
def splitPair (cs : List Char) : List Char × List Char :=
  (cs.takeWhile (· != '='), (cs.dropWhile (· != '=')).drop 1)

/-- **Reading a form.** The pairs in order; empty pieces between `&` signs do not count. -/
def parse (s : String) : List (String × String) :=
  ((s.toList.splitOn '&').filter fun piece => !piece.isEmpty).map fun piece =>
    (decodePart (splitPair piece).1, decodePart (splitPair piece).2)

end Outbound.Encoding.Form
