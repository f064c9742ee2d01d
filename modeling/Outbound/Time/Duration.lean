/-!
# Durations and instants

A duration is a whole number of nanoseconds, an instant a number of nanoseconds since the Unix
epoch, before or after it.

* **milliseconds** — `Duration.ofMillis` and `wholeMillis` convert, the latter downwards;
* **text** — `Duration.text` writes a duration in the largest unit of which it holds at least one.
-/

namespace Outbound.Time

/-- **Durations**, in nanoseconds. -/
structure Duration where
  nanos : Nat
  deriving DecidableEq, Repr, Inhabited

/-- **Instants**, in nanoseconds since the Unix epoch. -/
abbrev Instant := Int

namespace Duration

/-- A number of seconds. -/
def ofSeconds (n : Nat) : Duration := ⟨n * 1000000000⟩

/-- A number of milliseconds. -/
def ofMillis (n : Nat) : Duration := ⟨n * 1000000⟩

/-- The whole seconds. -/
def seconds (d : Duration) : Nat := d.nanos / 1000000000

/-- The nanoseconds beyond the whole seconds. -/
def subsecondNanos (d : Duration) : Nat := d.nanos % 1000000000

/-- The whole milliseconds. -/
def wholeMillis (d : Duration) : Nat := d.nanos / 1000000

@[simp] theorem wholeMillis_ofMillis (n : Nat) : (ofMillis n).wholeMillis = n := by
  simp [wholeMillis, ofMillis]

/-- The part of a unit behind the point: as many digits as the unit has, less the zeros at the end.
-/
def fraction (places part : Nat) : String :=
  let digits := Nat.toDigits 10 part
  let padded := List.replicate (places - digits.length) '0' ++ digits
  let kept := (padded.reverse.dropWhile (· = '0')).reverse
  if kept.isEmpty then "" else "." ++ String.ofList kept

/-- **Text.** The largest unit of which there is at least one, with a fraction if one is left. -/
def text (d : Duration) : String :=
  let n := d.nanos
  if 1000000000 ≤ n then s!"{n / 1000000000}{fraction 9 (n % 1000000000)}s"
  else if 1000000 ≤ n then s!"{n / 1000000}{fraction 6 (n % 1000000)}ms"
  else if 1000 ≤ n then s!"{n / 1000}{fraction 3 (n % 1000)}µs"
  else s!"{n}ns"

end Duration

namespace Instant

/-- The instant of a number of Unix milliseconds. -/
def ofMillis (n : Int) : Instant := n * 1000000

/-- **Unix milliseconds**, the fraction dropped toward the epoch. -/
def millis (t : Instant) : Int := t.tdiv 1000000

/-- The instant that lies a duration later. -/
def after (t : Instant) (d : Duration) : Instant := t + d.nanos

end Instant

end Outbound.Time
