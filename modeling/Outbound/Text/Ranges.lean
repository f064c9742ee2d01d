/-!
# Ranges of code points

A property of characters is often given by the ranges of code points that have it.
-/

namespace Outbound.Text

/-- **Ranges**, each by its first and last code point. -/
abbrev Ranges := Array (Nat × Nat)

/-- Whether a code point lies in one of the ranges. -/
def Ranges.has (rs : Ranges) (n : Nat) : Bool := rs.any fun (first, last) => first ≤ n && n ≤ last

end Outbound.Text
