import Outbound.Domain.Direction
import Outbound.Domain.Folding
import Outbound.Domain.Joining
import Outbound.Domain.Punycode
import Outbound.Domain.Repertoire
import Outbound.Text.Mark
import Outbound.Text.Normal

/-!
# Domain names

A domain name in any script has one form in ASCII, which is the one that is looked up (UTS 46). The
name is **folded** and brought into **normal form**, and its labels are **checked**; those beyond
ASCII are then written in Punycode after `xn--`. A label that begins so already must stand for one
that would be written just so.
-/

namespace Outbound.Domain

open Outbound.Text

/-- Whether every character of a label is in ASCII. -/
def inAscii (cs : List Char) : Bool := cs.all (·.toNat < 0x80)

/-- What a label in Punycode begins with. -/
def punycodeSign : List Char := ['x', 'n', '-', '-']

/-- **What a label stands for.** A label in Punycode is in ASCII, and stands for one in normal form
that cannot be written otherwise. -/
def meaning? (label : List Char) : Option (List Char) := do
  if !punycodeSign.isPrefixOf label then return label
  if !inAscii label then none
  let text ← Punycode.decode? (label.drop 4)
  if inAscii text || punycodeSign.isPrefixOf text || normal text != text then none
  return text

/-- **What a label must be**, given the ASCII characters that it cannot hold: of the repertoire, not
too long, not beginning with a mark, and with joiners only where they can be seen. -/
def isLabel (refused : Char → Bool) (label : List Char) : Bool :=
  label.all (fun c => if c.toNat < 0x80 then !refused c else isInRepertoire c) &&
    (inAscii label ||
      (label.length ≤ 1000 && !label.head?.any isMark && joinersStand [] label))

/-- **A label in ASCII.** -/
def labelText (label : List Char) : List Char :=
  if inAscii label then label else punycodeSign ++ Punycode.encode label

/-- **A domain name in ASCII**, or `none` if it is none. -/
def ascii? (refused : Char → Bool) (cs : List Char) : Option (List Char) := do
  let labels ← ((normal (cs.flatMap fold)).splitOn '.').mapM meaning?
  if labels.all (isLabel refused) && (labels.all inAscii || directionsAgree labels) then
    some (['.'].intercalate (labels.map labelText))
  else none

end Outbound.Domain
