import Outbound.Text.Ascii
import Outbound.Text.Printable

/-!
# Quoted text in diagnostics

Diagnostics quote the texts they show, so that a reader sees where each begins and ends and which
characters it holds.

* **escapes** — the quote, the backslash, NUL, tab, line feed and carriage return have short forms;
* **spelled out** — a character without a shape of its own is written by its code point in braces.
-/

namespace Outbound.Text

/-- **The quoted form of one character.** -/
def quoteChar (c : Char) : List Char :=
  match c with
  | '"' => ['\\', '"']
  | '\\' => ['\\', '\\']
  | '\x00' => ['\\', '0']
  | '\t' => ['\\', 't']
  | '\n' => ['\\', 'n']
  | '\r' => ['\\', 'r']
  | c =>
    if c.toNat < 32 || (127 ≤ c.toNat && isSpelledOut c) then
      ['\\', 'u', '\x7b'] ++ Nat.toDigits 16 c.toNat ++ ['\x7d']
    else [c]

/-- **Quoting.** -/
def quote (s : String) : String :=
  String.ofList ('"' :: s.toList.flatMap quoteChar ++ ['"'])

/-- A list of quoted texts in brackets. -/
def quoteList (ss : List String) : String :=
  "[" ++ ", ".intercalate (ss.map quote) ++ "]"

/-- An optional quoted text. -/
def quoteOption : Option String → String
  | none => "None"
  | some s => "Some(" ++ quote s ++ ")"

end Outbound.Text
