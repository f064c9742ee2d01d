import Outbound.Text.Ascii
import Outbound.Text.Blank
import Outbound.Text.Utf8

/-!
# Headers

The headers of a request or a response: names in lower case, each with one or more values, in the
order in which they were added.

* **names** — `HeaderName.of` folds the case; `HeaderName.parse?` also asks for a legal name;
* **values** — bytes, some marked as sensitive; `HeaderValue.parse?` asks for legal bytes;
* **view** — `Headers.values` lists the values of a name, and each operation is stated by what it
  does to this list.
-/

namespace Outbound

open Outbound.Text

/-- **Header names**, in lower case. -/
structure HeaderName where
  text : String
  deriving DecidableEq, Repr, Inhabited

namespace HeaderName

/-- The name that a text spells in any case. -/
def of (s : String) : HeaderName := ⟨lower s⟩

/-- The characters of a name. -/
def isNameChar (c : Char) : Bool := c.isAlphanum || "!#$%&'*+-.^_\x60|~".toList.contains c

/-- The name that a text spells, if it is a legal one. -/
def parse? (s : String) : Option HeaderName :=
  if !s.isEmpty && s.toList.all isNameChar then some (of s) else none

def authorization : HeaderName := ⟨"authorization"⟩
def contentEncoding : HeaderName := ⟨"content-encoding"⟩
def contentLength : HeaderName := ⟨"content-length"⟩
def contentType : HeaderName := ⟨"content-type"⟩
def accept : HeaderName := ⟨"accept"⟩
def retryAfter : HeaderName := ⟨"retry-after"⟩
def rateLimitReset : HeaderName := ⟨"ratelimit-reset"⟩

end HeaderName

/-- **Header values.** Sensitive ones carry credentials. -/
structure HeaderValue where
  bytes : List UInt8
  sensitive : Bool
  deriving DecidableEq, Repr, Inhabited

namespace HeaderValue

/-- The bytes of a legal value: tab, and everything from the space on but DEL. -/
def isLegal (b : UInt8) : Bool := (0x20 ≤ b && b != 0x7F) || b == 0x09

/-- **A value of legal bytes.** -/
def parse? (bs : List UInt8) : Option HeaderValue :=
  if bs.all isLegal then some ⟨bs, false⟩ else none

/-- The value with the UTF-8 bytes of a text, which must be legal. -/
def ofString? (s : String) : Option HeaderValue := parse? (Utf8.bytes s)

/-- The value with the bytes of a known text. -/
def ofText (s : String) : HeaderValue := ⟨Utf8.bytes s, false⟩

/-- The same value, marked as sensitive. -/
def asSensitive (v : HeaderValue) : HeaderValue := { v with sensitive := true }

/-- The bytes that can be read as text: printable ASCII and tab. -/
def isPrintable (b : UInt8) : Bool := (0x20 ≤ b && b < 0x7F) || b == 0x09

/-- **The value as text**, if all its bytes are printable ASCII or tabs. -/
def chars? (v : HeaderValue) : Option (List Char) :=
  if v.bytes.all isPrintable then some (v.bytes.map fun b => Char.ofNat b.toNat) else none

/-- The value as text, without blanks around it. -/
def trimmed? (v : HeaderValue) : Option (List Char) := v.chars?.map trim

/-- One byte in the quoted form of a value. -/
def quoteByte (b : UInt8) : List Char :=
  if b = 0x22 then ['\\', '"']
  else if isPrintable b then [Char.ofNat b.toNat]
  else '\\' :: 'x' :: Nat.toDigits 16 b.toNat

/-- The value as diagnostics show it: in quotes, with bytes that are no text shown by their number.
Of a sensitive one they show only that it is. -/
def quoted (v : HeaderValue) : String :=
  if v.sensitive then "Sensitive" else String.ofList ('"' :: v.bytes.flatMap quoteByte ++ ['"'])

end HeaderValue

/-- **Headers**, as entries in the order in which they were added. -/
structure Headers where
  entries : List (HeaderName × HeaderValue)
  deriving DecidableEq, Repr, Inhabited

namespace Headers

variable (h : Headers) (name : HeaderName) (v : HeaderValue)

/-- No headers. -/
def empty : Headers := ⟨[]⟩

/-- **The view.** The values of a name, in order. -/
def values : List HeaderValue := (h.entries.filter (·.1 = name)).map (·.2)

/-- The first value of a name. -/
def get? : Option HeaderValue := (h.values name).head?

/-- Whether a name is there. -/
def contains : Bool := !(h.values name).isEmpty

/-- **Appending.** The name keeps the values it has. -/
def append : Headers := ⟨h.entries ++ [(name, v)]⟩

/-- **Erasing** all values of a name. -/
def erase : Headers := ⟨h.entries.filter (·.1 ≠ name)⟩

/-- Puts one entry in the place of the first one of its name, or at the end. -/
def setEntry : List (HeaderName × HeaderValue) → List (HeaderName × HeaderValue)
  | [] => [(name, v)]
  | e :: rest =>
    if e.1 = name then (name, v) :: rest.filter (·.1 ≠ name) else e :: setEntry rest

/-- **Inserting** replaces all values of the name by one. -/
def insert : Headers := ⟨setEntry name v h.entries⟩

/-- Adds the value unless the name is there. -/
def insertIfAbsent : Headers := if h.contains name then h else h.insert name v

/-- The text of the first value of a name, without blanks around it. -/
def trimmed? : Option (List Char) := (h.get? name).bind HeaderValue.trimmed?

/-- The names, each once, in the order of their first values. -/
def names : List HeaderName := (h.entries.map (·.1)).eraseDups

/-! ## What the operations do to the view -/

variable {h name v}

@[simp] theorem values_empty : empty.values name = [] := rfl

@[simp] theorem values_append_self : (h.append name v).values name = h.values name ++ [v] := by
  simp [values, append]

theorem values_append_of_ne {other : HeaderName} (hne : other ≠ name) :
    (h.append name v).values other = h.values other := by
  simp [values, append, hne.symm]

@[simp] theorem values_erase_self : (h.erase name).values name = [] := by
  simp [values, erase]

theorem values_erase_of_ne {other : HeaderName} (hne : other ≠ name) :
    (h.erase name).values other = h.values other := by
  have : ∀ e : HeaderName × HeaderValue, (decide (e.1 = other) && !decide (e.1 = name)) =
      decide (e.1 = other) := by
    intro e
    by_cases he : e.1 = other <;> simp [he, hne]
  simp [values, erase, List.filter_filter, this]

theorem filter_setEntry_self (es : List (HeaderName × HeaderValue)) :
    (setEntry name v es).filter (·.1 = name) = [(name, v)] := by
  induction es with
  | nil => simp [setEntry]
  | cons e rest ih =>
    by_cases he : e.1 = name
    · simp [setEntry, he, List.filter_filter]
    · simp [setEntry, he, ih]

theorem filter_setEntry_of_ne {other : HeaderName} (hne : other ≠ name)
    (es : List (HeaderName × HeaderValue)) :
    (setEntry name v es).filter (·.1 = other) = es.filter (·.1 = other) := by
  induction es with
  | nil => simp [setEntry, hne.symm]
  | cons e rest ih =>
    by_cases he : e.1 = name
    · have : ∀ e : HeaderName × HeaderValue, (decide (e.1 = other) && !decide (e.1 = name)) =
          decide (e.1 = other) := by
        intro e
        by_cases he : e.1 = other <;> simp [he, hne]
      simp [setEntry, he, hne.symm, List.filter_filter, this]
    · simp [setEntry, he, List.filter_cons, ih]

@[simp] theorem values_insert_self : (h.insert name v).values name = [v] := by
  simp [values, insert, filter_setEntry_self]

theorem values_insert_of_ne {other : HeaderName} (hne : other ≠ name) :
    (h.insert name v).values other = h.values other := by
  simp [values, insert, filter_setEntry_of_ne hne]

end Headers

end Outbound
