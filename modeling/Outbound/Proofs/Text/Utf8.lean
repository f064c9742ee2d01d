import Mathlib.Tactic.IntervalCases
import Outbound.Text.Utf8

/-!
# Bytes of texts

The bytes of a text tell the text: reading them back finds every character.

* **bytes** — of texts that are joined are joined (`bytes_append`); those of a character beyond
  ASCII are beyond ASCII too (`le_of_mem_utf8EncodeChar`);
* **machine** — `begin_two`, `begin_three` and `begin_four` say what the first byte of a character
  opens, `scan_more` and `scan_last` what the bytes behind it do;
* **reading back** — `scan_utf8EncodeChar` for one character, `string?_bytes` and
  `decodeLossy_encode` for a text.
-/

namespace Outbound.Text.Utf8

/-! ## Bytes -/

theorem encode_append (cs ds : List Char) : encode (cs ++ ds) = encode cs ++ encode ds :=
  List.flatMap_append

theorem encode_cons (c : Char) (cs : List Char) :
    encode (c :: cs) = String.utf8EncodeChar c ++ encode cs := List.flatMap_cons

theorem bytes_append (s t : String) : bytes (s ++ t) = bytes s ++ bytes t := by
  rw [bytes, String.toList_append, encode_append, bytes, bytes]

@[simp] theorem bytes_ofList (cs : List Char) : bytes (String.ofList cs) = encode cs := by
  rw [bytes, String.toList_ofList]

theorem utf8EncodeChar_of_lt {c : Char} (h : c.toNat < 0x80) :
    String.utf8EncodeChar c = [UInt8.ofNat c.toNat] := by
  have hle : c.val.toNat ≤ 127 := Nat.le_of_lt_succ h
  rw [String.utf8EncodeChar, if_pos hle]
  rfl

theorem le_of_mem_utf8EncodeChar {c : Char} (hc : 0x80 ≤ c.toNat) {b : UInt8}
    (hb : b ∈ String.utf8EncodeChar c) : 0x80 ≤ b.toNat := by
  have hgt : ¬ c.val.toNat ≤ 127 := Nat.not_le_of_lt hc
  rw [String.utf8EncodeChar, if_neg hgt] at hb
  split at hb
  · simp only [List.mem_cons, List.not_mem_nil, or_false] at hb
    rcases hb with rfl | rfl <;> simp only [UInt8.toNat_ofNat'] <;> omega
  · split at hb
    · simp only [List.mem_cons, List.not_mem_nil, or_false] at hb
      rcases hb with rfl | rfl | rfl <;> simp only [UInt8.toNat_ofNat'] <;> omega
    · simp only [List.mem_cons, List.not_mem_nil, or_false] at hb
      rcases hb with rfl | rfl | rfl | rfl <;> simp only [UInt8.toNat_ofNat'] <;> omega

/-! ## The machine -/

theorem begin_one {n : Nat} (h : n < 0x80) :
    begin (UInt8.ofNat n) = (some (some (Char.ofNat n)), .idle) := by
  interval_cases n <;> rfl

theorem begin_two {n : Nat} (hlow : 0xC2 ≤ n) (hhigh : n < 0xE0) :
    begin (UInt8.ofNat n) = (none, .midway (n - 0xC0) 1 0x80 0xBF) := by
  interval_cases n <;> rfl

theorem begin_three {n : Nat} (hlow : 0xE0 ≤ n) (hhigh : n < 0xF0) :
    begin (UInt8.ofNat n) = (none, .midway (n - 0xE0) 2 (if n = 0xE0 then 0xA0 else 0x80)
      (if n = 0xED then 0x9F else 0xBF)) := by
  interval_cases n <;> rfl

theorem begin_four {n : Nat} (hlow : 0xF0 ≤ n) (hhigh : n < 0xF5) :
    begin (UInt8.ofNat n) = (none, .midway (n - 0xF0) 3 (if n = 0xF0 then 0x90 else 0x80)
      (if n = 0xF4 then 0x8F else 0xBF)) := by
  interval_cases n <;> rfl

section Midway

variable {bits n : Nat} {low high : UInt8} (bs : List UInt8)

theorem inRange_ofNat (hn : n < 256) (hlow : low.toNat ≤ n) (hhigh : n ≤ high.toNat) :
    (decide (low ≤ UInt8.ofNat n) && decide (UInt8.ofNat n ≤ high)) = true := by
  have htoNat : (UInt8.ofNat n).toNat = n := UInt8.toNat_ofNat_of_lt' hn
  simp only [UInt8.le_iff_toNat_le, htoNat, hlow, hhigh, decide_true, Bool.and_true]

/-- **The last byte** of a character completes it. -/
theorem scan_last (hn : n < 256) (hlow : low.toNat ≤ n) (hhigh : n ≤ high.toNat) :
    scan (.midway bits 1 low high) (UInt8.ofNat n :: bs) =
      some (Char.ofNat (bits * 64 + (n - 0x80))) :: scan .idle bs := by
  have htoNat : (UInt8.ofNat n).toNat = n := UInt8.toNat_ofNat_of_lt' hn
  rw [scan, if_pos (inRange_ofNat hn hlow hhigh), htoNat]
  rfl

/-- **A byte in the middle** adds its six bits. -/
theorem scan_more {more : Nat} (hn : n < 256) (hlow : low.toNat ≤ n) (hhigh : n ≤ high.toNat) :
    scan (.midway bits (more + 2) low high) (UInt8.ofNat n :: bs) =
      scan (.midway (bits * 64 + (n - 0x80)) (more + 1) 0x80 0xBF) bs := by
  have htoNat : (UInt8.ofNat n).toNat = n := UInt8.toNat_ofNat_of_lt' hn
  rw [scan, if_pos (inRange_ofNat hn hlow hhigh), htoNat]
  rfl

end Midway

/-! ## Reading back -/

theorem scan_begin {n : Nat} {next : Pending} (bs : List UInt8)
    (h : begin (UInt8.ofNat n) = (none, next)) :
    scan .idle (UInt8.ofNat n :: bs) = scan next bs := by
  rw [scan, h]

/-- **The bytes of a character** are read as this character. The second byte lies in the range that
its first byte leaves, as the character is neither written too long nor a surrogate nor too
large. -/
theorem scan_utf8EncodeChar (c : Char) (bs : List UInt8) :
    scan .idle (String.utf8EncodeChar c ++ bs) = some c :: scan .idle bs := by
  have hc : Char.ofNat c.val.toNat = c := Char.ofNat_toNat c
  have hvalid : c.val.toNat < 0xD800 ∨ 0xDFFF < c.val.toNat ∧ c.val.toNat < 0x110000 := c.valid
  rw [String.utf8EncodeChar]
  generalize c.val.toNat = v at hc hvalid
  split
  · have hbegin : begin (UInt8.ofNat v) = (some (some c), .idle) := by
      rw [begin_one (by omega), hc]
    rw [List.singleton_append, scan, hbegin]
  · split
    · have hbits : (v / 64 % 32 + 192 - 0xC0) * 64 + (v % 64 + 128 - 0x80) = v := by omega
      rw [List.cons_append, List.singleton_append, scan_begin _ (begin_two (by omega) (by omega)),
        scan_last _ (by omega) (by simp) (by simp; omega), hbits, hc]
    · split
      · have hbits : ((v / 4096 % 16 + 224 - 0xE0) * 64 + (v / 64 % 64 + 128 - 0x80)) * 64 +
            (v % 64 + 128 - 0x80) = v := by omega
        rw [List.cons_append, List.cons_append, List.singleton_append,
          scan_begin _ (begin_three (by omega) (by omega)), scan_more _ (by omega) ?_ ?_,
          scan_last _ (by omega) (by simp) (by simp; omega), hbits, hc]
        · split
          · simp
            omega
          · simp
        · split <;> simp <;> omega
      · have hbits : (((v / 262144 % 8 + 240 - 0xF0) * 64 + (v / 4096 % 64 + 128 - 0x80)) * 64 +
            (v / 64 % 64 + 128 - 0x80)) * 64 + (v % 64 + 128 - 0x80) = v := by omega
        rw [List.cons_append, List.cons_append, List.cons_append, List.singleton_append,
          scan_begin _ (begin_four (by omega) (by omega)), scan_more _ (by omega) ?_ ?_,
          scan_more _ (by omega) (by simp) (by simp; omega),
          scan_last _ (by omega) (by simp) (by simp; omega), hbits, hc]
        · split
          · simp
            omega
          · simp
        · split <;> simp <;> omega

theorem scan_encode (cs : List Char) : scan .idle (encode cs) = cs.map some := by
  induction cs with
  | nil => rfl
  | cons c cs ih => rw [encode_cons, scan_utf8EncodeChar, ih, List.map_cons]

/-- The bytes of a text have no faults to be replaced. -/
theorem decodeLossy_encode (cs : List Char) : decodeLossy (encode cs) = cs := by
  rw [decodeLossy, scan_encode, List.map_map]
  exact List.map_id cs

/-- **Reading back** a text from its bytes. -/
theorem string?_bytes (s : String) : string? (bytes s) = some s := by
  have hdecode : decode (bytes s) = some s.toList := by
    rw [decode, bytes, scan_encode]
    induction s.toList with
    | nil => rfl
    | cons c cs ih => simp [ih]
  rw [string?, hdecode, Option.map_some, String.ofList_toList]

end Outbound.Text.Utf8
