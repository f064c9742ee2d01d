import Outbound.Text.Quoted
import Outbound.Url.Host

/-!
# URLs

A URL in its parts, and its text.

* **authority** — user name, password, host and port; a URL may have none;
* **path** — either segments, or text that is kept as it is;
* **text** — `Url.text` writes the parts back, an empty query or fragment with its mark;
* **description** — `Url.description` shows the parts one by one.
-/

namespace Outbound

open Outbound.Text

namespace Url

/-- **What stands between `//` and the path.** The port is there only if it differs from the one
that the scheme implies. -/
structure Authority where
  username : String
  password : String
  host : Host
  port : Option Nat
  deriving DecidableEq, Repr

/-- **Paths.** `verbatim` is the path of a URL like `mailto:someone`. -/
inductive Path
  | verbatim (text : String)
  | segments (parts : List String)
  deriving DecidableEq, Repr, Inhabited

/-- The text of a path: every segment after a slash. -/
def Path.text : Path → String
  | .verbatim s => s
  | .segments parts => String.join (parts.map ("/" ++ ·))

/-- User name and password before the `@`, which stands only if one of them does. -/
def Authority.userinfo (a : Authority) : String :=
  if a.username.isEmpty && a.password.isEmpty then ""
  else a.username ++ (if a.password.isEmpty then "" else ":" ++ a.password) ++ "@"

/-- The text of an authority. -/
def Authority.text (a : Authority) : String :=
  a.userinfo ++ a.host.text ++ (match a.port with
    | some port => ":" ++ toString port
    | none => "")

end Url

/-- **A URL in its parts**, each in its encoded form. -/
structure Url where
  scheme : String
  authority : Option Url.Authority
  path : Url.Path
  query : Option String
  fragment : Option String
  deriving DecidableEq, Repr, Inhabited

namespace Url

/-- Without an authority, a path that begins with an empty segment is set off by `/.`, lest its
text look like one. -/
def pathGuard (u : Url) : String :=
  match u.authority, u.path with
  | none, .segments ("" :: _ :: _) => "/."
  | _, _ => ""

/-- A part behind its mark, if it is there. -/
def marked (mark : String) : Option String → String
  | none => ""
  | some s => mark ++ s

/-- **The text of a URL.** -/
def text (u : Url) : String :=
  u.scheme ++ ":" ++
    (match u.authority with
      | some a => "//" ++ a.text
      | none => "") ++
    u.pathGuard ++ u.path.text ++ marked "?" u.query ++ marked "#" u.fragment

/-! ## Description -/

/-- An optional part as diagnostics show it. -/
def describeOption : Option String → String
  | none => "None"
  | some s => s!"Some({s})"

/-- A host as diagnostics show it: an empty one is none, and an address of the IPv4 range of IPv6
ends as IPv4 does. -/
def Host.description? : Host → Option String
  | .name "" => none
  | .name s => some s!"Domain({quote s})"
  | .ipv4 a => some s!"Ipv4({ipv4Text a})"
  | .ipv6 [0, 0, 0, 0, 0, 0xFFFF, high, low] =>
    some s!"Ipv6(::ffff:{ipv4Text (high * 65536 + low)})"
  | .ipv6 ps => some s!"Ipv6({ipv6Text ps})"

/-- Whether the path is kept as it is. -/
def Path.isVerbatim : Path → Bool
  | .verbatim _ => true
  | .segments _ => false

/-- **A URL as diagnostics show it**, part by part. An empty password is none. -/
def description (u : Url) : String :=
  let a := u.authority.getD ⟨"", "", .name "", none⟩
  let password := if a.password.isEmpty then none else some a.password
  let port := a.port.map toString
  s!"Url \x7b scheme: {quote u.scheme}, cannot_be_a_base: {u.path.isVerbatim}, " ++
    s!"username: {quote a.username}, " ++
    s!"password: {quoteOption password}, " ++
    s!"host: {describeOption a.host.description?}, " ++
    s!"port: {describeOption port}, path: {quote u.path.text}, " ++
    s!"query: {quoteOption u.query}, fragment: {quoteOption u.fragment} \x7d"

end Url

end Outbound
