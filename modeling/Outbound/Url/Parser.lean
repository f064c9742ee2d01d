import Outbound.Text.Blank
import Outbound.Url.Basic

/-!
# Parsing URLs

`Url.parse` reads the text of an absolute URL as the URL Standard lays down.

* **special schemes** — `http`, `https`, `ws`, `wss` and `ftp` always have a host and a path, take
  backslashes for slashes, and leave out the port they imply; `file` may lack the host;
* **other schemes** — an authority only after `//`; without a slash the path is kept as it is;
* **dots** — segments that stand for this or the parent place are resolved while the path is read;
* **drives** — a segment of a letter and a colon or a bar is never left by going up, and at the
  front of a file path it takes the place of the host.
-/

namespace Outbound.Url

open Outbound.Text

/-- The port that a special scheme implies. -/
def defaultPort? (scheme : String) : Option Nat :=
  match scheme with
  | "http" | "ws" => some 80
  | "https" | "wss" => some 443
  | "ftp" => some 21
  | _ => none

/-- The schemes with rules of their own. -/
def isSpecial (scheme : String) : Bool := scheme == "file" || (defaultPort? scheme).isSome

/-- Blanks and controls around a URL do not count. -/
def trimControls (cs : List Char) : List Char :=
  dropEndWhile (·.toNat ≤ 0x20) (cs.dropWhile (·.toNat ≤ 0x20))

/-- Tabs and line ends. -/
def isBreak (c : Char) : Bool := c == '\t' || c == '\n' || c == '\r'

/-- Tabs and line ends do not count anywhere in a URL. -/
def withoutBreaks (cs : List Char) : List Char := cs.filter (!isBreak ·)

/-- **The scheme**, in lower case, and what follows its colon. -/
def splitScheme (cs : List Char) : Option (String × List Char) :=
  let isSchemeChar (c : Char) : Bool := c.isAlphanum || c == '+' || c == '-' || c == '.'
  match cs.takeWhile isSchemeChar, cs.dropWhile isSchemeChar with
  | c :: name, ':' :: rest =>
    if c.isAlpha then some (lower (String.ofList (c :: name)), rest) else none
  | _, _ => none

/-- Whether a character separates the segments of a path. -/
def isSlash (special : Bool) (c : Char) : Bool := c == '/' || (special && c == '\\')

/-- Whether a character ends the path. -/
def endsPath (c : Char) : Bool := c == '?' || c == '#'

/-- Whether a character ends the authority. -/
def endsAuthority (special : Bool) (c : Char) : Bool := isSlash special c || endsPath c

/-! ## Paths -/

/-- The segments at the slashes; at least one, perhaps empty. -/
def pieces (special : Bool) (cs : List Char) : List (List Char) :=
  (cs.map fun c => if isSlash special c then '/' else c).splitOn '/'

/-- A segment that stands for the same place. -/
def isSingleDot (segment : String) : Bool := segment == "." || lower segment == "%2e"

/-- A segment that stands for the parent place. -/
def isDoubleDot (segment : String) : Bool :=
  ["..", "%2e%2e", "%2e.", ".%2e"].contains (lower segment)

/-- **The drive that a segment names**: a letter, and a colon or a bar. -/
def drive? (cs : List Char) : Option Char :=
  match cs with
  | [c, mark] => if c.isAlpha && (mark == ':' || mark == '|') then some c else none
  | _ => none

/-- Going up leaves the last segment, unless that is a drive. -/
def goUp : List String → List String
  | [] => []
  | segment :: before =>
    if (drive? segment.toList).isSome then segment :: before else before

/-- **What has been read of a path**: its segments, the last one first, and whether a drive was
found at its front. -/
structure Trail where
  done : List String
  onDrive : Bool
  deriving DecidableEq, Repr

/-- A drive and what follows it, if a tab or a line end stands between them. -/
def brokenDrive? (piece : List Char) : Option (Char × List Char) :=
  match piece.dropWhile isBreak with
  | c :: rest =>
    match rest.dropWhile isBreak with
    | ':' :: mark :: rest =>
      let rest := withoutBreaks rest
      if c.isAlpha && isBreak mark && !rest.isEmpty then some (c, rest) else none
    | _ => none
  | [] => none

/-- The encoded form of a segment. -/
def encodeSegment (piece : List Char) : String :=
  String.ofList (percentEncode inPath (withoutBreaks piece))

/-- **The front of a file path.** A drive is written with a colon. One that is broken off is a
segment of its own, and does not count as the drive of the path. -/
def Trail.front (piece : List Char) : Trail :=
  match brokenDrive? piece, drive? (withoutBreaks piece) with
  | some (c, rest), _ => ⟨[encodeSegment rest, String.ofList [c, ':']], false⟩
  | none, some c => ⟨[String.ofList [c, ':']], true⟩
  | none, none => ⟨[encodeSegment piece], false⟩

/-- **Reading a segment.** A dot segment at the end leaves an empty segment behind. -/
def Trail.read (file last : Bool) (t : Trail) (piece : List Char) : Trail :=
  let segment := encodeSegment piece
  let close (done : List String) : List String := if last then "" :: done else done
  if isDoubleDot segment then { t with done := close (goUp t.done) }
  else if isSingleDot segment then { t with done := close t.done }
  else if file && t.done.isEmpty then Trail.front piece
  else { t with done := segment :: t.done }

/-- **Reading all segments.** -/
def Trail.readAll (file : Bool) (t : Trail) : List (List Char) → Trail
  | [] => t
  | piece :: rest => (t.read file rest.isEmpty piece).readAll file rest

/-- **The segments of a path text**, and whether it is on a drive. The slash at the front of the
path is not part of the text. A file path does not begin with empty segments. -/
def readPath (special file : Bool) (cs : List Char) : List String × Bool :=
  let t := Trail.readAll file ⟨[], false⟩ (pieces special cs)
  if file then
    match t.done.reverse.dropWhile (·.isEmpty) with
    | [] => ([""], t.onDrive)
    | kept => (kept, t.onDrive)
  else (t.done.reverse, t.onDrive)

/-- The segments of a path that is not a file's. -/
def segmentsOf (special : Bool) (cs : List Char) : List String := (readPath special false cs).1

/-- Drops a slash at the front. -/
def dropSlash (special : Bool) : List Char → List Char
  | c :: cs => if isSlash special c then cs else c :: cs
  | [] => []

/-! ## Query and fragment -/

/-- **Query and fragment**, from the mark that ended the path. -/
def queryAndFragment (special : Bool) (cs : List Char) : Option String × Option String :=
  let fragmentOf (cs : List Char) := some (String.ofList (percentEncode inFragment cs))
  match cs with
  | '?' :: cs =>
    let query := some (String.ofList (percentEncode (inQuery special) (cs.takeWhile (· != '#'))))
    match cs.dropWhile (· != '#') with
    | _ :: rest => (query, fragmentOf rest)
    | [] => (query, none)
  | '#' :: cs => (none, fragmentOf cs)
  | _ => (none, none)

/-- Puts a URL together from what is known and the text that begins at the path's end. -/
def assemble (scheme : String) (authority : Option Authority) (path : Path) (rest : List Char) :
    Url :=
  let (query, fragment) := queryAndFragment (isSpecial scheme) rest
  { scheme, authority, path, query, fragment }

/-! ## Authorities -/

/-- What is before the last `@`, and what is after it; `none` without one. -/
def splitAtSign (cs : List Char) : Option (List Char × List Char) :=
  match cs.reverse.dropWhile (· != '@') with
  | _ :: before => some (before.reverse, (cs.reverse.takeWhile (· != '@')).reverse)
  | [] => none

/-- User name and password, at the first colon. -/
def splitUserinfo (cs : List Char) : String × String :=
  let encode (cs : List Char) := String.ofList (percentEncode inUserinfo cs)
  (encode (cs.takeWhile (· != ':')), encode ((cs.dropWhile (· != ':')).drop 1))

/-- Where a host ends: at a colon outside brackets. -/
def splitHost (inside : Bool) : List Char → List Char × List Char
  | [] => ([], [])
  | c :: cs =>
    if c = ':' ∧ inside = false then ([], c :: cs)
    else
      let inside := if c = '[' then true else if c = ']' then false else inside
      let (host, rest) := splitHost inside cs
      (c :: host, rest)

/-- **The port**: digits up to 65535; none at all is the same as leaving it out. With every scheme a
backslash ends it, and what begins there belongs to the path. -/
def parsePort (scheme : String) (cs : List Char) : Except UrlError (Option Nat × List Char) :=
  let ds := cs.takeWhile (· != '\\')
  let rest := cs.dropWhile (· != '\\')
  if !ds.all Char.isDigit then .error .invalidPort
  else if ds.isEmpty then .ok (none, rest)
  else
    let n := Nat.ofDigitChars 10 ds 0
    if 65535 < n then .error .invalidPort
    else .ok (if defaultPort? scheme = some n then none else some n, rest)

/-- **The authority.** `cs` is its text, `more` what follows it. An empty host stands only with a
scheme that is not special, and alone. -/
def parseAuthority (scheme : String) (cs more : List Char) :
    Except UrlError (Authority × List Char) := do
  let special := isSpecial scheme
  let (userinfo, rest) := (splitAtSign cs).getD ([], cs)
  if (splitAtSign cs).isSome ∧ userinfo.isEmpty ∧ rest.isEmpty ∧ !more.isEmpty then
    throw .emptyHost
  let (hostText, portText) := splitHost false rest
  if special ∧ hostText.isEmpty then throw .emptyHost
  let host ← if special then parseDomain hostText else parseVerbatimHost hostText
  if host = .name "" ∧ !portText.isEmpty then throw .emptyHost
  let (port, stray) ← parsePort scheme (portText.drop 1)
  let (username, password) := splitUserinfo userinfo
  if host = .name "" ∧ !(username.isEmpty && password.isEmpty) then throw .emptyHost
  return ({ username, password, host, port }, stray ++ more)

/-- **A URL with an authority**, from after the slashes. -/
def parseWithAuthority (scheme : String) (cs : List Char) : Except UrlError Url := do
  let special := isSpecial scheme
  let ends (c : Char) : Bool := endsAuthority special c
  let (authority, rest) ← parseAuthority scheme (cs.takeWhile (!ends ·)) (cs.dropWhile (!ends ·))
  let pathText := rest.takeWhile (!endsPath ·)
  let path :=
    if pathText.isEmpty && !special then []
    else segmentsOf special (dropSlash special pathText)
  return assemble scheme (some authority) (.segments path) (rest.dropWhile (!endsPath ·))

/-! ## Files -/

/-- **Putting a file URL together.** On a drive it has no host. -/
def assembleFile (host : Host) (cs : List Char) : Url :=
  let (path, onDrive) := readPath true true (cs.takeWhile (!endsPath ·))
  assemble "file" (some ⟨"", "", if onDrive then .name "" else host, none⟩) (.segments path)
    (withoutBreaks (cs.dropWhile (!endsPath ·)))

/-- Two slashes at the front, and what follows them. -/
def afterSlashes? (cs : List Char) : Option (List Char) :=
  match cs.dropWhile isBreak with
  | a :: rest =>
    match rest.dropWhile isBreak with
    | b :: rest => if isSlash true a && isSlash true b then some rest else none
    | [] => none
  | [] => none

/-- **A file URL**, its tabs and line ends still in place. A drive in the place of the host begins
the path. The host `localhost` is the same as none, and without a host the slash that ends it is an
empty segment. -/
def parseFile (cs : List Char) : Except UrlError Url :=
  match afterSlashes? cs with
  | none => .ok (assembleFile (.name "") (dropSlash true (cs.dropWhile isBreak)))
  | some cs => do
    let hostText := withoutBreaks (cs.takeWhile (!endsAuthority true ·))
    let rest := cs.dropWhile (!endsAuthority true ·)
    if (drive? hostText).isSome then return assembleFile (.name "") cs
    else if hostText.isEmpty then return assembleFile (.name "") rest
    else
      let host ← parseDomain hostText
      return if host = .name "localhost" then assembleFile (.name "") rest
        else assembleFile host (dropSlash true rest)

/-! ## The whole -/

/-- **Parsing an absolute URL.** -/
def parse (s : String) : Except UrlError Url :=
  let cs := trimControls s.toList
  match splitScheme (withoutBreaks cs) with
  | none => .error .relativeWithoutBase
  | some (scheme, rest) =>
    if scheme = "file" then parseFile ((cs.dropWhile (· != ':')).drop 1)
    else if isSpecial scheme then parseWithAuthority scheme (rest.dropWhile (isSlash true))
    else match rest with
    | '/' :: '/' :: rest => parseWithAuthority scheme rest
    | '/' :: rest =>
      .ok <| assemble scheme none
        (.segments (segmentsOf false (rest.takeWhile (!endsPath ·))))
        (rest.dropWhile (!endsPath ·))
    | rest =>
      .ok <| assemble scheme none
        (.verbatim (String.ofList (percentEncode inControls (rest.takeWhile (!endsPath ·)))))
        (rest.dropWhile (!endsPath ·))

end Outbound.Url
