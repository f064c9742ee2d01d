import Outbound.Text.Ascii
import Outbound.Time.Duration

/-!
# Dates as mail headers write them

`Retry-After` may hold a date such as `Wed, 15 Nov 2023 00:00:00 GMT`. `MailDate.instant?` reads
these, with everything that the format of mail headers allows around them:

* **space** — blanks and comments in parentheses, nested to a limited depth, in which a backslash
  quotes;
* **years** — four digits from 1900 on, or two digits for the years from 1950 to 2049;
* **zones** — an offset, a few names, and single letters, which all mean UTC;
* **leap seconds** — a sixtieth second only at the end of a month in UTC; it stands for the last
  nanosecond before it.

A weekday that does not belong to the date is not noticed.
-/

namespace Outbound.Time.MailDate

open Outbound.Text

/-- A reader takes characters from the front. -/
abbrev Reader := StateT (List Char) Option

/-- Whether a character is a blank inside a header. -/
def isGap (c : Char) : Bool := c == ' ' || c == '\t'

/-- How deep comments may be nested. -/
def commentDepth : Nat := 31

/-- The rest after the comments that are open, `depth` of them; `none` if one stays open, or if they
are nested too deep. -/
def afterComment : Nat → List Char → Option (List Char)
  | 0, cs => some cs
  | _ + 1, [] => none
  | depth + 1, '\\' :: _ :: cs => afterComment (depth + 1) cs
  | _ + 1, ['\\'] => none
  | depth + 1, '(' :: cs => if depth + 2 ≤ commentDepth then afterComment (depth + 2) cs else none
  | depth + 1, ')' :: cs => afterComment depth cs
  | depth + 1, _ :: cs => afterComment (depth + 1) cs

/-- Drops blanks and comments from the front, at most `steps` of them. A comment that stays open, or
is nested too deep, is no comment. -/
def dropSpace : Nat → List Char → List Char
  | 0, cs => cs
  | _ + 1, [] => []
  | steps + 1, c :: cs =>
    if isGap c then dropSpace steps cs
    else if c = '(' then
      match afterComment 1 cs with
      | some rest => dropSpace steps rest
      | none => c :: cs
    else c :: cs

/-- Blanks and comments, if there are any. -/
def space? : Reader Unit := modify fun cs => dropSpace cs.length cs

/-- Blanks and comments, at least one. -/
def space : Reader Unit := do
  let before ← get
  space?
  if (← get).length < before.length then return else failure

/-- Blanks only, at least one. -/
def blanks : Reader Unit := do
  let before ← get
  modify (·.dropWhile isGap)
  if (← get).length < before.length then return else failure

/-- Expects one character. -/
def expect (c : Char) : Reader Unit := do
  match ← get with
  | d :: rest => if d = c then set rest else failure
  | [] => failure

/-- A name from a list, in any case, by its value. -/
def oneOf {α : Type} (names : List (String × α)) : Reader α := do
  let cs ← get
  match names.find? fun (name, _) =>
      sameIgnoringCase name (String.ofList (cs.take name.length)) with
  | some (name, a) => do set (cs.drop name.length); return a
  | none => failure

/-- Exactly `n` digits. -/
def digits (n : Nat) : Reader Nat := do
  let cs ← get
  let ds := cs.take n
  if ds.length = n ∧ ds.all Char.isDigit then do
    set (cs.drop n)
    return Nat.ofDigitChars 10 ds 0
  else failure

/-- The names of the weekdays. -/
def weekdays : List (String × Unit) :=
  ["Mon", "Tue", "Wed", "Thu", "Fri", "Sat", "Sun"].map (·, ())

/-- The names of the months, with their numbers. -/
def months : List (String × Nat) :=
  [("Jan", 1), ("Feb", 2), ("Mar", 3), ("Apr", 4), ("May", 5), ("Jun", 6), ("Jul", 7), ("Aug", 8),
    ("Sep", 9), ("Oct", 10), ("Nov", 11), ("Dec", 12)]

/-- The named zones that space or a comment may follow, with their hours east of UTC. -/
def zoneNames : List (String × Int) :=
  [("GMT", 0), ("EST", -5), ("EDT", -4), ("CST", -6), ("CDT", -5), ("MST", -7), ("MDT", -6),
    ("PST", -8), ("PDT", -7)]

/-- The zones that must end the date: `UT` and the single letters but J. All of them are UTC. -/
def isFinalZone (cs : List Char) : Bool :=
  match cs with
  | [c] => c.isAlpha && c != 'J' && c != 'j'
  | cs => sameIgnoringCase (String.ofList cs) "UT"

/-- The seconds east of UTC of a numeric zone. The minutes take the sign of the hours, and hours
that are zero have none. -/
def offset : Reader Int := do
  let negative ← (do expect '+'; return false) <|> (do expect '-'; return true)
  let hours ← digits 2
  let minutes ← digits 2
  if 25 < hours ∨ 59 < minutes then failure
  else
    let size : Int := hours * 3600 + minutes * 60
    return if negative ∧ hours ≠ 0 then -size else size

/-- **The zone**, in seconds east of UTC, up to the end of the date. -/
def zone : Reader Int := do
  let cs ← get
  if isFinalZone cs then return 0
  let seconds ← (do return (← oneOf zoneNames) * 3600) <|> offset
  space?
  if (← get).isEmpty then return seconds else failure

/-- Whether a year of the Gregorian calendar has a leap day. -/
def isLeapYear (y : Int) : Bool := y % 4 == 0 && (y % 100 != 0 || y % 400 == 0)

/-- The number of days of a month. -/
def monthLength (y : Int) (m : Nat) : Nat :=
  if m = 2 then (if isLeapYear y then 29 else 28)
  else if m = 4 ∨ m = 6 ∨ m = 9 ∨ m = 11 then 30 else 31

/-- The days before a year, counted from the first of January of year one. -/
def daysBeforeYear (y : Int) : Int :=
  (y - 1) * 365 + (y - 1) / 4 - (y - 1) / 100 + (y - 1) / 400

/-- **Days since the epoch** of a date. -/
def daysSinceEpoch (y : Int) (m d : Nat) : Int :=
  let daysBeforeMonth := (List.range (m - 1)).foldl (fun days i => days + monthLength y (i + 1)) 0
  daysBeforeYear y - daysBeforeYear 1970 + daysBeforeMonth + (d - 1 : Nat)

/-- Whether an instant, in seconds, is the last second of a month in UTC, for a date `y`, `m` no
more than a day away. -/
def endsMonth (y : Int) (m : Nat) (seconds : Int) : Bool :=
  let next (y : Int) (m : Nat) : Int :=
    (daysSinceEpoch y m 1 + monthLength y m) * 86400 - 1
  let (py, pm) : Int × Nat := if m = 1 then (y - 1, 12) else (y, m - 1)
  seconds == next y m || seconds == next py pm

/-- The day of the month, one or two digits. -/
def day : Reader Nat := digits 2 <|> digits 1

/-- The year with the space after it. -/
def year : Reader Int := do
  let cs ← get
  if 4 ≤ cs.length ∧ (cs.take 4).all Char.isDigit then do
    let y ← digits 4
    if y < 1900 then failure
    blanks
    return y
  else do
    let y ← digits 2
    space
    return if y < 50 then y + 2000 else y + 1900

/-- The seconds of the time of day, if they are there, with the space after them. -/
def secondsPart : Reader Nat := do
  let before ← get
  space?
  match ← get with
  | ':' :: rest => do
    set rest
    space?
    let s ← digits 2
    space
    return s
  | _ => do
    set before
    space
    return 0

/-- The weekday with its comma, if there is one. -/
def weekdayPart : Reader Unit := do
  let cs ← get
  match (oneOf weekdays).run cs with
  | some (_, rest) => do set rest; expect ','; space?
  | none => return

/-- **A date up to the end of the text.** -/
def date : Reader Instant := do
  space?
  weekdayPart
  let d ← day
  space
  let m ← oneOf months
  space
  let y ← year
  let hour ← digits 2
  space?
  expect ':'
  space?
  let minute ← digits 2
  let second ← secondsPart
  let east ← zone
  if d = 0 ∨ monthLength y m < d ∨ 23 < hour ∨ 59 < minute ∨ 60 < second then failure
  let leap := second = 60
  let seconds : Int := daysSinceEpoch y m d * 86400 + hour * 3600 + minute * 60 +
    (if leap then 59 else second : Nat) - east
  if leap ∧ !endsMonth y m seconds then failure
  return seconds * 1000000000 + (if leap then 999999999 else 0)

/-- **The instant of a date**, if the text is one. -/
def instant? (cs : List Char) : Option Instant := date.run' cs

end Outbound.Time.MailDate
