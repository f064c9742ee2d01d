import Outbound.Encoding.Crc32

/-!
# Gzip

A compressed body is one gzip member. The encoder here stores the bytes in blocks without
compressing them, which every reader of the format accepts.

* **frame** — a header of ten bytes, the blocks, the check sum and the length of the source;
* **blocks** — at most 65535 bytes each, the last one marked; an empty source is one empty block;
* **reading** — `decode` accepts exactly such members and checks the sum and the length.
-/

namespace Outbound.Encoding.Gzip

/-- The bytes of a number, least significant first. -/
def littleEndian (count n : Nat) : List UInt8 :=
  (List.range count).map fun i => UInt8.ofNat (n >>> (8 * i) % 256)

/-- The number with these bytes, least significant first. -/
def ofLittleEndian (bs : List UInt8) : Nat := bs.foldr (fun b n => b.toNat + 256 * n) 0

/-- The header: the format's mark, the method, and no further fields. -/
def header : List UInt8 := [0x1F, 0x8B, 0x08, 0, 0, 0, 0, 0, 0, 0xFF]

/-- The most bytes that a block can store. -/
def blockLimit : Nat := 65535

/-- One stored block. -/
def block (final : Bool) (bs : List UInt8) : List UInt8 :=
  (if final then 1 else 0) :: littleEndian 2 bs.length ++ littleEndian 2 (65535 - bs.length) ++ bs

/-- The blocks of a source, at most `count` of them before the last. -/
def blocks : Nat → List UInt8 → List UInt8
  | 0, bs => block true bs
  | count + 1, bs =>
    if bs.length ≤ blockLimit then block true bs
    else block false (bs.take blockLimit) ++ blocks count (bs.drop blockLimit)

/-- **Encoding** a source as one member. -/
def encode (source : List UInt8) : List UInt8 :=
  header ++ blocks (source.length / blockLimit) source ++
    littleEndian 4 (Crc32.checksum source).toNat ++ littleEndian 4 (source.length % (1 <<< 32))

/-- The content of stored blocks and what follows them, reading at most `count` blocks. -/
def readBlocks : Nat → List UInt8 → Option (List UInt8 × List UInt8)
  | 0, _ => none
  | count + 1, final :: a :: b :: c :: d :: rest =>
    let size := ofLittleEndian [a, b]
    if final.toNat ≤ 1 ∧ ofLittleEndian [c, d] = 65535 - size ∧ size ≤ rest.length then
      if final = 1 then some (rest.take size, rest.drop size)
      else (readBlocks count (rest.drop size)).map fun (bs, left) => (rest.take size ++ bs, left)
    else none
  | _ + 1, _ => none

/-- **Decoding** one member. -/
def decode (bs : List UInt8) : Option (List UInt8) := do
  if bs.take 10 ≠ header then none
  let (source, tail) ← readBlocks bs.length (bs.drop 10)
  if tail = littleEndian 4 (Crc32.checksum source).toNat ++
      littleEndian 4 (source.length % (1 <<< 32)) then some source
  else none

end Outbound.Encoding.Gzip
