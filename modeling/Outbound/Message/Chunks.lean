/-!
# Reading a stream in chunks

A body that is compressed while it is sent is read piece by piece. What a byte source will answer
to successive reads is data: a `ByteSource` lists the pieces and the interruptions to come, and says
how the stream ends.

* **reading** — `ByteSource.read` answers the next read; at the end it keeps answering the same;
* **chunks** — `Chunks.next` passes over interruptions, yields a fault once, and stays done;
* **buffering** — `ByteSource.readAll` joins everything that is read before the end.
-/

namespace Outbound

/-- The size of the buffer that a chunk is read into. -/
def chunkSize : Nat := 8192

/-- One read to come: a piece of the stream, or an interruption. -/
inductive Read
  | piece (bytes : List UInt8)
  | interrupted
  deriving DecidableEq, Repr

/-- **A source of bytes**: the reads to come, and the fault at the end of the stream, if it has one.
-/
structure ByteSource where
  reads : List Read
  fault : Option String
  deriving DecidableEq, Repr

/-- What a read answers. -/
inductive ReadResult
  | piece (bytes : List UInt8)
  | interrupted
  | finished
  | failed (fault : String)
  deriving DecidableEq, Repr

namespace ByteSource

/-- **The contract of a source.** A piece is never empty and never larger than the buffer. -/
def Obeys (s : ByteSource) : Prop :=
  ∀ bs, Read.piece bs ∈ s.reads → bs ≠ [] ∧ bs.length ≤ chunkSize

/-- **The next read.** A stream that is over stays over; a fault is answered each time. -/
def read (s : ByteSource) : ReadResult × ByteSource :=
  match s.reads with
  | .piece bs :: rest => (.piece bs, { s with reads := rest })
  | .interrupted :: rest => (.interrupted, { s with reads := rest })
  | [] => match s.fault with
    | none => (.finished, s)
    | some fault => (.failed fault, s)

/-- The bytes of the pieces to come. -/
def content (s : ByteSource) : List UInt8 :=
  s.reads.flatMap fun
    | .piece bs => bs
    | .interrupted => []

/-- **Reading to the end.** All bytes, or the fault. -/
def readAll (s : ByteSource) : Except String (List UInt8) :=
  match s.fault with
  | none => .ok s.content
  | some fault => .error fault

/-- Cuts bytes into pieces that fit the buffer, at most `count` of them. -/
def cut : Nat → List UInt8 → List Read
  | 0, _ => []
  | _ + 1, [] => []
  | count + 1, b :: bs =>
    .piece ((b :: bs).take chunkSize) :: cut count ((b :: bs).drop chunkSize)

/-- **The source of known bytes**, in pieces as large as the buffer allows. -/
def ofBytes (bs : List UInt8) : ByteSource := ⟨cut bs.length bs, none⟩

end ByteSource

/-- **An iteration over chunks.** -/
structure Chunks where
  source : ByteSource
  done : Bool
  deriving DecidableEq, Repr

namespace Chunks

/-- The iteration that begins at a source. -/
def start (source : ByteSource) : Chunks := ⟨source, false⟩

/-- Reads until something other than an interruption is answered. -/
def advance (fault : Option String) : List Read → Option (Except String (List UInt8)) × Chunks
  | .piece bs :: rest => (some (.ok bs), ⟨⟨rest, fault⟩, false⟩)
  | .interrupted :: rest => advance fault rest
  | [] => match fault with
    | none => (none, ⟨⟨[], none⟩, true⟩)
    | some f => (some (.error f), ⟨⟨[], some f⟩, true⟩)

/-- **The next chunk**: bytes, a fault, or nothing once the iteration is over. -/
def next (c : Chunks) : Option (Except String (List UInt8)) × Chunks :=
  if c.done then (none, c) else advance c.source.fault c.source.reads

/-- The items that the next `count` calls yield, up to the first that yields none, and the iteration
after them. -/
def drain : Nat → Chunks → List (Except String (List UInt8)) × Chunks
  | 0, c => ([], c)
  | count + 1, c =>
    match c.next with
    | (some item, c') => let (items, last) := drain count c'; (item :: items, last)
    | (none, c') => ([], c')

/-- The iteration as diagnostics show it. -/
def text (c : Chunks) : String := s!"GzipChunks \x7b done: {c.done} \x7d"

end Chunks

end Outbound
