/-!
# Blank characters and trimming

Values that people type — authentication types, header values, numbers written as text — may carry
blanks around them. This module says which characters are blank and what trimming does:

* **blank** — the characters of the Unicode property `White_Space`, not only the ASCII ones;
* **trimming** — `trim` drops blanks at both ends and keeps those inside.
-/

namespace Outbound.Text

/-- **Blank characters.** The Unicode property `White_Space`: the ASCII controls from tab to
carriage return, the spaces of every width, the two separators and NEL. -/
def isBlank (c : Char) : Bool :=
  let n := c.toNat
  (9 ≤ n && n ≤ 13) || n == 0x20 || n == 0x85 || n == 0xA0 || n == 0x1680 ||
    (0x2000 ≤ n && n ≤ 0x200A) || n == 0x2028 || n == 0x2029 || n == 0x202F || n == 0x205F ||
    n == 0x3000

/-- Drops the characters at the end that satisfy `p`. -/
def dropEndWhile (p : Char → Bool) (cs : List Char) : List Char :=
  (cs.reverse.dropWhile p).reverse

/-- **Trimming.** Drops the blanks at both ends. -/
def trim (cs : List Char) : List Char :=
  dropEndWhile isBlank (cs.dropWhile isBlank)

@[simp] theorem trim_nil : trim [] = [] := rfl

end Outbound.Text
