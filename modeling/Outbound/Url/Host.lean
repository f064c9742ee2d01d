import Outbound.Domain.Name
import Outbound.Url.Percent

/-!
# Hosts

The host of a URL is a name or an address. Which names are read as addresses depends on the scheme:
with a special scheme a name that ends in a number must be an IPv4 address, in any of its old
spellings; a host in brackets is an IPv6 address with every scheme.

* **domain** — percent-decoded, in the ASCII form that is looked up, free of characters that would
  end a host;
* **IPv4** — one to four numbers, decimal, octal or hexadecimal, the last filling what is left;
* **IPv6** — eight pieces, one run of zeros written as `::`, the last two perhaps as IPv4.
-/

namespace Outbound.Url

open Outbound.Text

/-- **Faults of a URL.** -/
inductive UrlError
  | emptyHost
  | invalidDomainName
  | invalidDomainCharacter
  | invalidPort
  | invalidIpv4
  | invalidIpv6
  | relativeWithoutBase
  deriving DecidableEq, Repr

/-- The text of a fault. -/
def UrlError.message : UrlError → String
  | .emptyHost => "empty host"
  | .invalidDomainName => "invalid international domain name"
  | .invalidDomainCharacter => "invalid domain character"
  | .invalidPort => "invalid port number"
  | .invalidIpv4 => "invalid IPv4 address"
  | .invalidIpv6 => "invalid IPv6 address"
  | .relativeWithoutBase => "relative URL without a base"

/-- **Hosts.** A name may be empty where the scheme allows it. -/
inductive Host
  | name (text : String)
  | ipv4 (address : Nat)
  | ipv6 (pieces : List Nat)
  deriving DecidableEq, Repr

/-! ## IPv4 -/

/-- **One number of an IPv4 address.** `none` if it is no number; the value may be of any size. -/
def ipv4Number? (cs : List Char) : Option Nat :=
  let valueIn (base : Nat) (ds : List Char) : Option Nat :=
    ds.foldlM (fun n c => do
      let d ← hexValue? c
      if d < base then some (n * base + d) else none) 0
  match cs with
  | [] => none
  | '0' :: 'x' :: ds | '0' :: 'X' :: ds => valueIn 16 ds
  | '0' :: d :: ds => valueIn 8 (d :: ds)
  | ds => valueIn 10 ds

/-- The labels of a name, without an empty one at the end. -/
def labels (cs : List Char) : List (List Char) :=
  let parts := cs.splitOn '.'
  if parts.getLast? = some [] then parts.dropLast else parts

/-- Whether a name must be an IPv4 address: its last label is a number, or all digits. -/
def endsInNumber (cs : List Char) : Bool :=
  match (labels cs).getLast? with
  | some last =>
    (!last.isEmpty && last.all Char.isDigit) || (ipv4Number? last).isSome
  | none => false

/-- **An IPv4 address.** All numbers but the last stand for one byte each. -/
def ipv4? (cs : List Char) : Option Nat := do
  let parts := labels cs
  if 4 < parts.length then none
  let numbers ← parts.mapM ipv4Number?
  let last ← numbers.getLast?
  let heads := numbers.dropLast
  if 1 <<< (8 * (4 - heads.length)) ≤ last ∨ heads.any (255 < ·) then none
  return heads.zipIdx.foldl (fun address (n, i) => address + n <<< (8 * (3 - i))) last

/-- The dotted form. -/
def ipv4Text (address : Nat) : String :=
  ".".intercalate <| [3, 2, 1, 0].map fun i => toString (address >>> (8 * i) % 256)

/-! ## IPv6 -/

/-- One to four hexadecimal digits. -/
def ipv6Piece? (cs : List Char) : Option Nat :=
  if cs.isEmpty || 4 < cs.length then none
  else cs.foldlM (fun n c => (hexValue? c).map (n * 16 + ·)) 0

/-- The two pieces that an IPv4 address stands for: four decimal bytes without superfluous zeros. -/
def ipv4Pieces? (cs : List Char) : Option (List Nat) := do
  let parts := cs.splitOn '.'
  let bytes ← parts.mapM fun ds =>
    if ds.isEmpty || !ds.all Char.isDigit || (ds.head? == some '0' && 1 < ds.length) then none
    else
      let n := Nat.ofDigitChars 10 ds 0
      if n ≤ 255 then some n else none
  match bytes with
  | [a, b, c, d] => some [a * 256 + b, c * 256 + d]
  | _ => none

/-- The pieces of a part of an address; the last one of all may be an IPv4 address. -/
def ipv6Pieces? (final : Bool) : List (List Char) → Option (List Nat)
  | [] => some []
  | [last] =>
    if final && last.contains '.' then ipv4Pieces? last else (ipv6Piece? last).map ([·])
  | piece :: rest => do return (← ipv6Piece? piece) :: (← ipv6Pieces? final rest)

/-- The parts between colons, with the `::` at either end reduced to one empty part; `none` if a
single colon stands there. -/
def ipv6Parts? (cs : List Char) : Option (List (List Char)) := do
  let parts ← match cs.splitOn ':' with
    | [] :: [] :: p :: rest => some ([] :: p :: rest)
    | [] :: _ => none
    | ps => some ps
  match parts.reverse with
  | [] :: [] :: rest => some ([] :: rest).reverse
  | [] :: _ :: _ => none
  | _ => some parts

/-- **An IPv6 address.** Without `::` all eight pieces are there, with it at most seven. -/
def ipv6? (cs : List Char) : Option (List Nat) := do
  if cs.isEmpty then none
  let parts ← ipv6Parts? cs
  let before := parts.takeWhile (!·.isEmpty)
  match parts.dropWhile (!·.isEmpty) with
  | [] => do
    let pieces ← ipv6Pieces? true before
    if pieces.length = 8 then some pieces else none
  | _ :: after => do
    let front ← ipv6Pieces? false before
    let back ← ipv6Pieces? true after
    let known := front.length + back.length
    if known ≤ 7 then some (front ++ List.replicate (8 - known) 0 ++ back) else none

/-- The length of the run of zeros at the front. -/
def zeroRun (pieces : List Nat) : Nat := (pieces.takeWhile (· = 0)).length

/-- The place and length of the first longest run of zeros. -/
def longestZeroRun (pieces : List Nat) : Nat × Nat :=
  (List.range pieces.length).foldl (fun best i =>
    let run := zeroRun (pieces.drop i)
    if best.2 < run then (i, run) else best) (0, 0)

/-- The text of an address, the first longest run of at least two zeros written as `::`. -/
def ipv6Text (pieces : List Nat) : String :=
  let join (ps : List Nat) : String := ":".intercalate (ps.map hexNumeral)
  let (start, run) := longestZeroRun pieces
  if 2 ≤ run then join (pieces.take start) ++ "::" ++ join (pieces.drop (start + run))
  else join pieces

/-! ## Hosts -/

/-- The text of a host, an IPv6 address in brackets. -/
def Host.text : Host → String
  | .name s => s
  | .ipv4 a => ipv4Text a
  | .ipv6 ps => "[" ++ ipv6Text ps ++ "]"

/-- The characters that end a host or must not stand in one. -/
def isForbidden (c : Char) : Bool :=
  ['\x00', '\t', '\n', '\r', ' ', '#', '/', ':', '<', '>', '?', '@', '[', '\\', ']', '^',
    '|'].contains c

/-- The characters that no domain can hold: those, the controls, and `%`. -/
def isForbiddenInDomain (c : Char) : Bool := isForbidden c || inControls c || c == '%'

/-- A host in brackets. -/
def bracketed (cs : List Char) : Except UrlError Host :=
  match cs.getLast?, ipv6? cs.dropLast with
  | some ']', some pieces => .ok (.ipv6 pieces)
  | _, _ => .error .invalidIpv6

/-- **The host of a special scheme.** A name in any script is written in ASCII. -/
def parseDomain (cs : List Char) : Except UrlError Host :=
  match cs with
  | '[' :: inner => bracketed inner
  | cs =>
    match Domain.ascii? isForbiddenInDomain (Utf8.decodeLossy (percentDecode cs)) with
    | none => .error .invalidDomainName
    | some [] => .error .emptyHost
    | some name =>
      if endsInNumber name then
        match ipv4? name with
        | some address => .ok (.ipv4 address)
        | none => .error .invalidIpv4
      else .ok (.name (String.ofList name))

/-- **The host of any other scheme.** Its text stays as it is, controls encoded. -/
def parseVerbatimHost (cs : List Char) : Except UrlError Host :=
  match cs with
  | '[' :: inner => bracketed inner
  | cs =>
    if cs.any isForbidden then .error .invalidDomainCharacter
    else .ok (.name (String.ofList (percentEncode inControls cs)))

end Outbound.Url
