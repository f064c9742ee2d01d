/-!
# Cyclic redundancy check

The 32-bit check sum of the gzip format: the remainder of the bytes, least significant bit first,
under the polynomial `0xEDB88320`, complemented before and after.
-/

namespace Outbound.Encoding.Crc32

/-- Divides out one bit. -/
def shift (r : UInt32) : UInt32 :=
  if r &&& 1 = 1 then (r >>> 1) ^^^ 0xEDB88320 else r >>> 1

/-- Takes in one byte. -/
def update (r : UInt32) (b : UInt8) : UInt32 :=
  (shift ∘ shift ∘ shift ∘ shift ∘ shift ∘ shift ∘ shift ∘ shift) (r ^^^ b.toUInt32)

/-- **The check sum of bytes.** -/
def checksum (bs : List UInt8) : UInt32 := bs.foldl update 0xFFFFFFFF ^^^ 0xFFFFFFFF

end Outbound.Encoding.Crc32
