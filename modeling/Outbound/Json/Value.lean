import Outbound.Number.Shortest
import Outbound.Text.Ascii

/-!
# JSON values and their text

A JSON document as a value, and the compact text of a value.

* **numbers** — whole numbers that fit 64 bits stay whole; all others are doubles;
* **objects** — a value lists the members of an object as it was given them; `Value.sorted` orders
  them by name, where of several members with one name the last counts;
* **text** — `Value.render` writes no blanks, escapes what JSON requires and nothing else, and
  writes doubles with their shortest digits.
-/

namespace Outbound.Json

open Outbound.Number Outbound.Text

/-- **Numbers.** `whole` for those that fit 64 bits, signed or unsigned. -/
inductive Number
  | whole (n : Int)
  | double (x : Binary64)
  deriving DecidableEq, Repr

/-- **Values.** The members of an object stand in the order they were written. -/
inductive Value
  | null
  | bool (b : Bool)
  | number (n : Number)
  | string (s : String)
  | array (items : List Value)
  | object (members : List (String × Value))
  deriving Inhabited, Repr

/-! ## Objects as maps -/

section Map

variable {α : Type}

/-- The entry under a name. -/
def get? (name : String) : List (String × α) → Option α
  | [] => none
  | (key, a) :: rest => if key = name then some a else get? name rest

/-- **Inserting by name.** Keeps a list that is sorted by name sorted, and replaces an entry of the
same name. -/
def insertSorted (name : String) (a : α) : List (String × α) → List (String × α)
  | [] => [(name, a)]
  | (key, b) :: rest =>
    if name = key then (name, a) :: rest
    else if name < key then (name, a) :: (key, b) :: rest
    else (key, b) :: insertSorted name a rest

/-- **Sorted by name, the last of each name.** -/
def sortMembers (members : List (String × α)) : List (String × α) :=
  members.foldl (fun sorted (name, a) => insertSorted name a sorted) []

end Map

mutual

/-- The value with every object in it sorted. -/
def Value.sorted : Value → Value
  | .array items => .array (sortedItems items)
  | .object members => .object (sortMembers (sortedEntries members))
  | v => v

/-- The items, each sorted. -/
def sortedItems : List Value → List Value
  | [] => []
  | v :: rest => v.sorted :: sortedItems rest

/-- The members, the value of each sorted. -/
def sortedEntries : List (String × Value) → List (String × Value)
  | [] => []
  | (name, v) :: rest => (name, v.sorted) :: sortedEntries rest

end

/-! ## Text -/

/-- The written form of one character inside a string. -/
def escape (c : Char) : List Char :=
  match c with
  | '"' => ['\\', '"']
  | '\\' => ['\\', '\\']
  | '\x08' => ['\\', 'b']
  | '\x0c' => ['\\', 'f']
  | '\n' => ['\\', 'n']
  | '\r' => ['\\', 'r']
  | '\t' => ['\\', 't']
  | c =>
    if c.toNat < 32 then
      ['\\', 'u', '0', '0', hexLower (c.toNat / 16), hexLower (c.toNat % 16)]
    else [c]

/-- A string in quotes. -/
def renderString (s : String) : List Char := '"' :: s.toList.flatMap escape ++ ['"']

/-- **Layout of a double.** Plain with at least one decimal when the exponent of the leading digit
lies between -5 and 15; beyond, one digit before the point, and the sign of the exponent always
written. -/
def renderDouble (x : Binary64) : List Char :=
  let sign := if x.negative then ['-'] else []
  if x.significand = 0 then sign ++ ['0', '.', '0'] else
  let d := x.shortest
  let digits := Nat.toDigits 10 d.digits
  let point : Int := digits.length + d.power
  let body :=
    if 0 ≤ d.power ∧ point ≤ 16 then
      digits ++ List.replicate d.power.toNat '0' ++ ['.', '0']
    else if 0 < point ∧ point ≤ 16 then
      digits.take point.toNat ++ '.' :: digits.drop point.toNat
    else if -5 < point ∧ point ≤ 0 then
      ['0', '.'] ++ List.replicate (-point).toNat '0' ++ digits
    else
      let exponent := point - 1
      let mantissa := match digits with
        | [single] => [single]
        | first :: rest => first :: '.' :: rest
        | [] => []
      mantissa ++ 'e' :: (if exponent < 0 then '-' else '+') :: Nat.toDigits 10 exponent.natAbs
  sign ++ body

/-- The text of a number. -/
def Number.render : Number → List Char
  | .whole n => (toString n).toList
  | .double x => renderDouble x

mutual

/-- **Compact text.** -/
def Value.render : Value → List Char
  | .null => "null".toList
  | .bool true => "true".toList
  | .bool false => "false".toList
  | .number n => n.render
  | .string s => renderString s
  | .array [] => ['[', ']']
  | .array (v :: rest) => '[' :: v.render ++ renderItems rest
  | .object [] => ['\x7b', '\x7d']
  | .object ((name, v) :: rest) =>
    '\x7b' :: renderString name ++ ':' :: v.render ++ renderMembers rest

/-- The text of the items after the first, up to the closing bracket. -/
def renderItems : List Value → List Char
  | [] => [']']
  | v :: rest => ',' :: v.render ++ renderItems rest

/-- The text of the members after the first, up to the closing brace. -/
def renderMembers : List (String × Value) → List Char
  | [] => ['\x7d']
  | (name, v) :: rest => ',' :: renderString name ++ ':' :: v.render ++ renderMembers rest

end

/-- The compact text as a string. -/
def Value.text (v : Value) : String := String.ofList v.render

end Outbound.Json
