import Outbound.Encoding.Gzip
import Outbound.Message.Chunks

/-!
# Bodies

What a request sends after its headers: nothing, bytes, or bytes that are compressed while they are
written.

* **length** — known in advance, except for a compressed body;
* **replay** — a compressed body keeps its source, so that each reading begins anew.
-/

namespace Outbound

/-- **Bodies.** `gzip` holds the uncompressed source. -/
inductive Body
  | empty
  | bytes (content : List UInt8)
  | gzip (source : List UInt8)
  deriving DecidableEq, Repr, Inhabited

namespace Body

/-- Whether there is nothing to send. A compressed body is never empty. -/
def isEmpty : Body → Bool
  | .empty => true
  | .bytes bs => bs.isEmpty
  | .gzip _ => false

/-- **The length in advance**, `none` where it is not known. -/
def contentLength : Body → Option Nat
  | .empty => some 0
  | .bytes bs => some bs.length
  | .gzip _ => none

/-- **A codec** turns a source into the stream of its compressed bytes. -/
abbrev Codec := List UInt8 → ByteSource

/-- The codec of this library: the gzip member of the source. -/
def gzipCodec : Codec := fun source => .ofBytes (Encoding.Gzip.encode source)

/-- **The bytes on the wire**, or the fault of the codec. -/
def toBytes (codec : Codec) : Body → Except String (List UInt8)
  | .empty => .ok []
  | .bytes bs => .ok bs
  | .gzip source => (codec source).readAll

/-- **The chunks of a compressed source.** Each call begins at its first byte. -/
def chunks (codec : Codec) (source : List UInt8) : Chunks := .start (codec source)

/-- A compressed body as diagnostics show it. -/
def gzipText (source : List UInt8) : String :=
  s!"Gzip(GzipBody \x7b source_len: {source.length} \x7d)"

end Body

end Outbound
