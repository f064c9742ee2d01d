import Outbound.Encoding.Form
import Outbound.Proofs.Text.Parting
import Outbound.Proofs.Text.Utf8

/-!
# Forms and their pairs

A form that was written is read as the pairs that were written, whatever characters stand in them.

* **bytes** — a written byte is read as this byte, whatever follows (`decodeBytes_encodeByte`), and
  has no separator in it (`ne_of_mem_encodeByte`);
* **parts** — so is a name or a value (`decodePart_encodePart`, `not_mem_encodePart`);
* **pairs** — the first `=` of a written pair is the one between its parts (`splitPair_append`), and
  every `&` of a form stands between two pairs (`parse_encode`).
-/

namespace Outbound.Encoding.Form

open Outbound.Text

/-! ## Bytes -/

theorem hexValue?_hexUpper {n : Nat} (hn : n < 16) : hexValue? (hexUpper n) = some n := by
  revert n
  decide

theorem hexUpper_ne {n : Nat} (hn : n < 16) : hexUpper n ≠ '&' ∧ hexUpper n ≠ '=' := by
  revert n
  decide

/-- **A byte that stands for itself** is all that its character is written with, which is no sign
that a form has a use for. -/
theorem of_isPlain {b : UInt8} (h : isPlain b = true) :
    String.utf8EncodeChar (Char.ofNat b.toNat) = [b] ∧
      Char.ofNat b.toNat ≠ '+' ∧ Char.ofNat b.toNat ≠ '%' ∧
      Char.ofNat b.toNat ≠ '&' ∧ Char.ofNat b.toNat ≠ '=' := by
  have hall : ∀ n < 256, isPlain (UInt8.ofNat n) = true →
      String.utf8EncodeChar (Char.ofNat n) = [UInt8.ofNat n] ∧
        Char.ofNat n ≠ '+' ∧ Char.ofNat n ≠ '%' ∧ Char.ofNat n ≠ '&' ∧ Char.ofNat n ≠ '=' := by
    decide +kernel
  have hb := hall b.toNat b.toNat_lt
  rw [UInt8.ofNat_toNat] at hb
  exact hb h

/-- **No separator** comes of a byte. -/
theorem ne_of_mem_encodeByte {b : UInt8} {c : Char} (h : c ∈ encodeByte b) : c ≠ '&' ∧ c ≠ '=' := by
  rw [encodeByte] at h
  split at h
  case isTrue =>
    obtain rfl := List.mem_singleton.mp h
    decide
  case isFalse =>
    split at h
    case isTrue hplain =>
      obtain rfl := List.mem_singleton.mp h
      obtain ⟨-, -, -, hne⟩ := of_isPlain hplain
      exact hne
    case isFalse =>
      have hb := b.toNat_lt
      simp only [List.mem_cons, List.not_mem_nil, or_false] at h
      rcases h with rfl | rfl | rfl
      · decide
      · exact hexUpper_ne (by omega)
      · exact hexUpper_ne (by omega)

/-- **Reading a byte back**, in front of any others. -/
theorem decodeBytes_encodeByte (b : UInt8) (rest : List Char) :
    decodeBytes (encodeByte b ++ rest) = b :: decodeBytes rest := by
  rw [encodeByte]
  split
  case isTrue hspace =>
    rw [hspace]
    rfl
  case isFalse =>
    split
    case isTrue hplain =>
      obtain ⟨hbyte, hplus, hpercent, -⟩ := of_isPlain hplain
      rw [List.singleton_append, decodeBytes]
      · rw [hbyte, List.singleton_append]
      · exact hplus
      · intro _ _ _ hc
        exact absurd hc hpercent
    case isFalse =>
      have hb := b.toNat_lt
      have hhigh : hexValue? (hexUpper (b.toNat / 16)) = some (b.toNat / 16) :=
        hexValue?_hexUpper (by omega)
      have hlow : hexValue? (hexUpper (b.toNat % 16)) = some (b.toNat % 16) :=
        hexValue?_hexUpper (by omega)
      have hbyte : b.toNat / 16 * 16 + b.toNat % 16 = b.toNat := by omega
      simp only [List.cons_append, List.nil_append, decodeBytes, hhigh, hlow, hbyte,
        UInt8.ofNat_toNat]

/-! ## Parts -/

theorem decodeBytes_encode (bs : List UInt8) : decodeBytes (bs.flatMap encodeByte) = bs := by
  induction bs with
  | nil => rfl
  | cons b bs ih => rw [List.flatMap_cons, decodeBytes_encodeByte, ih]

/-- **Reading a part back.** -/
theorem decodePart_encodePart (s : String) : decodePart (encodePart s) = s := by
  have hlossy : Utf8.decodeLossy (Utf8.bytes s) = s.toList := by
    rw [Utf8.decodeLossy, Utf8.bytes, Utf8.scan_encode, List.map_map]
    exact List.map_id _
  rw [decodePart, encodePart, decodeBytes_encode, hlossy, String.ofList_toList]

theorem not_mem_encodePart (s : String) : '&' ∉ encodePart s ∧ '=' ∉ encodePart s := by
  constructor
  · intro h
    obtain ⟨b, -, hb⟩ := List.mem_flatMap.mp h
    exact (ne_of_mem_encodeByte hb).1 rfl
  · intro h
    obtain ⟨b, -, hb⟩ := List.mem_flatMap.mp h
    exact (ne_of_mem_encodeByte hb).2 rfl

/-! ## Pairs -/

/-- **The first `=`** parts a name from its value. -/
theorem splitPair_append {name : List Char} (h : '=' ∉ name) (value : List Char) :
    splitPair (name ++ '=' :: value) = (name, value) := by
  have hname : ∀ c ∈ name, (c != '=') = true := by
    intro c hc
    rw [bne_iff_ne]
    rintro rfl
    exact h hc
  rw [splitPair, List.takeWhile_append_of_pos hname, List.dropWhile_append_of_pos hname]
  simp

/-- The written form of a pair. -/
def encodePair (p : String × String) : List Char := encodePart p.1 ++ '=' :: encodePart p.2

theorem not_mem_encodePair (p : String × String) : '&' ∉ encodePair p := by
  simp [encodePair, not_mem_encodePart]

/-- **The pieces** of a written form are its pairs. -/
theorem splitOn_encode {pairs : List (String × String)} (hne : pairs ≠ []) :
    (encode pairs).toList.splitOn '&' = pairs.map encodePair := by
  rw [encode, String.toList_ofList]
  apply List.splitOn_intercalate
  · intro piece hpiece
    obtain ⟨p, -, rfl⟩ := List.mem_map.mp hpiece
    exact not_mem_encodePair p
  · exact fun h => hne (List.map_eq_nil_iff.mp h)

/-- **Reading a form back.** Every pair is found again, in its place, and nothing else. -/
theorem parse_encode (pairs : List (String × String)) : parse (encode pairs) = pairs := by
  by_cases hne : pairs = []
  · -- no pairs are one empty piece, which does not count
    rw [hne]
    rfl
  · have hpieces : (pairs.map encodePair).filter (fun piece => !piece.isEmpty) =
        pairs.map encodePair := by
      rw [List.filter_eq_self]
      intro piece hpiece
      obtain ⟨p, -, rfl⟩ := List.mem_map.mp hpiece
      simp [encodePair]
    have hpair (p : String × String) :
        (decodePart (splitPair (encodePair p)).1, decodePart (splitPair (encodePair p)).2) = p := by
      rw [encodePair, splitPair_append (not_mem_encodePart p.1).2, decodePart_encodePart,
        decodePart_encodePart]
    rw [parse, splitOn_encode hne, hpieces, List.map_map]
    exact (List.map_congr_left fun p _ => hpair p).trans (List.map_id pairs)

end Outbound.Encoding.Form
