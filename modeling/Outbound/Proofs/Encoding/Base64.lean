import Outbound.Encoding.Base64
import Outbound.Proofs.Text.Parting

/-!
# Base 64 text and bytes

Writing and reading base 64 are inverse to each other: a text is read if and only if it is what is
written for the bytes that are read.

* **symbols** — a symbol stands for one value and a value for one symbol (`value?_eq_some_iff`);
* **groups** — `decode_encode` reads back what was written, `encode_of_decode` writes again what was
  read, each by induction on the groups of three bytes and four symbols;
* **canonical text** — `IsCanonical` tells from the symbols alone which texts are written
  (`isCanonical_iff`);
* **padding** — a text with padding spells the bytes that it spells without
  (`decode_dropEndWhile_eq_some_iff`);
* **padded text** — where padding is asked for, reading and writing are inverse as well
  (`decodePadded_eq_some_iff`).
-/

namespace Outbound.Encoding.Base64

open Outbound.Text

variable {a : Alphabet}

/-! ## Symbols -/

namespace Alphabet

theorem value?_symbol {n : Nat} (hn : n < 64) : a.value? (a.symbol n) = some n := by
  revert n
  cases a <;> decide

/-- All symbols are ASCII. -/
theorem value?_eq_none_of_le {c : Char} (h : 128 ≤ c.toNat) : a.value? c = none := by
  have hne : c ≠ '+' ∧ c ≠ '/' ∧ c ≠ '-' ∧ c ≠ '_' := by
    refine ⟨?_, ?_, ?_, ?_⟩ <;> rintro rfl <;> exact absurd h (by decide)
  simp only [value?]
  rw [if_neg (by omega), if_neg (by omega), if_neg (by omega)]
  cases a <;> simp [hne]

/-- **A symbol and its value** determine each other. -/
theorem value?_eq_some_iff {c : Char} {n : Nat} :
    a.value? c = some n ↔ n < 64 ∧ c = a.symbol n := by
  constructor
  · intro h
    -- only ASCII characters have values, and these can be gone through
    have hall : ∀ k < 128, ∀ m ∈ a.value? (Char.ofNat k), m < 64 ∧ Char.ofNat k = a.symbol m := by
      cases a <;> decide
    rcases Nat.lt_or_ge c.toNat 128 with hlt | hge
    · have hc := hall c.toNat hlt n
      rw [Char.ofNat_toNat] at hc
      exact hc h
    · rw [value?_eq_none_of_le hge] at h
      cases h
  · rintro ⟨hn, rfl⟩
    exact value?_symbol hn

/-- The symbols of an alphabet, each in the place of its value. -/
def symbols : Alphabet → List Char
  | .standard => "ABCDEFGHIJKLMNOPQRSTUVWXYZabcdefghijklmnopqrstuvwxyz0123456789+/".toList
  | .urlSafe => "ABCDEFGHIJKLMNOPQRSTUVWXYZabcdefghijklmnopqrstuvwxyz0123456789-_".toList

theorem getElem?_symbols {c : Char} {n : Nat} : a.symbols[n]? = some c ↔ a.value? c = some n := by
  have hlength : a.symbols.length = 64 := by cases a <;> decide
  have hall : ∀ n < 64, a.symbols[n]? = some (a.symbol n) := by cases a <;> decide
  rw [value?_eq_some_iff]
  constructor
  · intro h
    have hn : n < 64 := hlength ▸ (List.getElem?_eq_some_iff.mp h).1
    rw [hall n hn] at h
    exact ⟨hn, (Option.some.inj h).symm⟩
  · rintro ⟨hn, rfl⟩
    exact hall n hn

theorem mem_symbols {c : Char} : c ∈ a.symbols ↔ ∃ n, a.value? c = some n := by
  simp only [List.mem_iff_getElem?, getElem?_symbols]

theorem symbol_ne_pad {n : Nat} (hn : n < 64) : a.symbol n ≠ '=' := by
  revert n
  cases a <;> decide

end Alphabet

/-! ## Groups -/

theorem ofNat_eq {x : UInt8} {n : Nat} (h : n = x.toNat) : UInt8.ofNat n = x := by
  rw [h, UInt8.ofNat_toNat]

/-- **Reading back.** The bits of the bytes come together again. -/
theorem decode_encode (bs : List UInt8) : decode a (encode a false bs) = some bs := by
  fun_induction encode a false bs with
  | case1 => rfl
  | case2 x =>
    have hx := x.toNat_lt
    have hp : a.value? (a.symbol (x.toNat / 4)) = _ := Alphabet.value?_symbol (by omega)
    have hq : a.value? (a.symbol (x.toNat % 4 * 16)) = _ := Alphabet.value?_symbol (by omega)
    simp only [Bool.false_eq_true, if_false, decode, hp, hq, Option.bind_eq_bind, Option.bind_some]
    rw [if_pos (by omega), ofNat_eq (x := x) (by omega)]
  | case3 x y =>
    have hx := x.toNat_lt
    have hy := y.toNat_lt
    have hp : a.value? (a.symbol (x.toNat / 4)) = _ := Alphabet.value?_symbol (by omega)
    have hq : a.value? (a.symbol (x.toNat % 4 * 16 + y.toNat / 16)) = _ :=
      Alphabet.value?_symbol (by omega)
    have hr : a.value? (a.symbol (y.toNat % 16 * 4)) = _ := Alphabet.value?_symbol (by omega)
    simp only [Bool.false_eq_true, if_false, decode, hp, hq, hr, Option.bind_eq_bind,
      Option.bind_some]
    rw [if_pos (by omega), ofNat_eq (x := x) (by omega), ofNat_eq (x := y) (by omega)]
  | case4 x y z rest ih =>
    have hx := x.toNat_lt
    have hy := y.toNat_lt
    have hz := z.toNat_lt
    have hp : a.value? (a.symbol (x.toNat / 4)) = _ := Alphabet.value?_symbol (by omega)
    have hq : a.value? (a.symbol (x.toNat % 4 * 16 + y.toNat / 16)) = _ :=
      Alphabet.value?_symbol (by omega)
    have hr : a.value? (a.symbol (y.toNat % 16 * 4 + z.toNat / 64)) = _ :=
      Alphabet.value?_symbol (by omega)
    have hs : a.value? (a.symbol (z.toNat % 64)) = _ := Alphabet.value?_symbol (by omega)
    simp only [decode, hp, hq, hr, hs, ih, Option.bind_eq_bind, Option.bind_some]
    rw [ofNat_eq (x := x) (by omega), ofNat_eq (x := y) (by omega), ofNat_eq (x := z) (by omega)]

/-- **Writing again.** The bits of the symbols come apart again; those that belong to no byte are
zero, or else nothing would have been read. -/
theorem encode_of_decode {cs : List Char} {bs : List UInt8} (h : decode a cs = some bs) :
    encode a false bs = cs := by
  have toNat {n : Nat} (hn : n < 256) : (UInt8.ofNat n).toNat = n := UInt8.toNat_ofNat_of_lt' hn
  fun_induction decode a cs generalizing bs with
  | case1 =>
    cases h
    rfl
  | case2 => cases h
  | case3 p q =>
    simp only [Option.bind_eq_bind, Option.bind_eq_some_iff, Option.ite_none_right_eq_some,
      Alphabet.value?_eq_some_iff] at h
    obtain ⟨m, ⟨hm, rfl⟩, n, ⟨hn, rfl⟩, hzero, ⟨⟩⟩ := h
    have hx := toNat (n := m * 4 + n / 16) (by omega)
    have hp : (m * 4 + n / 16) / 4 = m := by omega
    have hq : (m * 4 + n / 16) % 4 * 16 = n := by omega
    simp only [encode, Bool.false_eq_true, if_false, hx, hp, hq]
  | case4 p q r =>
    simp only [Option.bind_eq_bind, Option.bind_eq_some_iff, Option.ite_none_right_eq_some,
      Alphabet.value?_eq_some_iff] at h
    obtain ⟨m, ⟨hm, rfl⟩, n, ⟨hn, rfl⟩, k, ⟨hk, rfl⟩, hzero, ⟨⟩⟩ := h
    have hx := toNat (n := m * 4 + n / 16) (by omega)
    have hy := toNat (n := n % 16 * 16 + k / 4) (by omega)
    have hp : (m * 4 + n / 16) / 4 = m := by omega
    have hq : (m * 4 + n / 16) % 4 * 16 + (n % 16 * 16 + k / 4) / 16 = n := by omega
    have hr : (n % 16 * 16 + k / 4) % 16 * 4 = k := by omega
    simp only [encode, Bool.false_eq_true, if_false, hx, hy, hp, hq, hr]
  | case5 p q r s rest ih =>
    simp only [Option.bind_eq_bind, Option.bind_eq_some_iff, Alphabet.value?_eq_some_iff] at h
    obtain ⟨m, ⟨hm, rfl⟩, n, ⟨hn, rfl⟩, k, ⟨hk, rfl⟩, l, ⟨hl, rfl⟩, tail, htail, ⟨⟩⟩ := h
    have hx := toNat (n := m * 4 + n / 16) (by omega)
    have hy := toNat (n := n % 16 * 16 + k / 4) (by omega)
    have hz := toNat (n := k % 4 * 64 + l) (by omega)
    have hp : (m * 4 + n / 16) / 4 = m := by omega
    have hq : (m * 4 + n / 16) % 4 * 16 + (n % 16 * 16 + k / 4) / 16 = n := by omega
    have hr : (n % 16 * 16 + k / 4) % 16 * 4 + (k % 4 * 64 + l) / 64 = k := by omega
    have hs : (k % 4 * 64 + l) % 64 = l := by omega
    simp only [encode, hx, hy, hz, hp, hq, hr, hs, ih htail]

/-- **Reading is the inverse of writing.** -/
theorem decode_eq_some_iff {cs : List Char} {bs : List UInt8} :
    decode a cs = some bs ↔ cs = encode a false bs := by
  constructor
  · intro h
    exact (encode_of_decode h).symm
  · rintro rfl
    exact decode_encode bs

/-! ## Canonical text -/

/-- The number of bits in the last symbol of a text that belong to no byte, by its length. -/
def spareBits (length : Nat) : Nat :=
  match length % 4 with
  | 2 => 4
  | 3 => 2
  | _ => 0

variable (a) in
/-- **Canonical text**: nothing but symbols, no lone one at the end, and no spare bit set. -/
structure IsCanonical (cs : List Char) : Prop where
  symbols : ∀ c ∈ cs, c ∈ a.symbols
  length : cs.length % 4 ≠ 1
  spare : ∀ c ∈ cs.getLast?, ∀ n, a.symbols[n]? = some c → n % Nat.pow 2 (spareBits cs.length) = 0

theorem isCanonical_group {p q r s : Char} {rest : List Char} :
    IsCanonical a (p :: q :: r :: s :: rest) ↔
      (p ∈ a.symbols ∧ q ∈ a.symbols ∧ r ∈ a.symbols ∧ s ∈ a.symbols) ∧ IsCanonical a rest := by
  have hlength : (p :: q :: r :: s :: rest).length % 4 = rest.length % 4 := by
    simp only [List.length_cons]
    omega
  have hspare : spareBits (p :: q :: r :: s :: rest).length = spareBits rest.length := by
    rw [spareBits, hlength, spareBits]
  constructor
  · rintro ⟨hsymbols, hlone, hlast⟩
    simp only [List.forall_mem_cons] at hsymbols
    obtain ⟨hp, hq, hr, hs, hrest⟩ := hsymbols
    refine ⟨⟨hp, hq, hr, hs⟩, hrest, hlength ▸ hlone, ?_⟩
    rw [hspare] at hlast
    cases rest with
    | nil => exact nofun
    | cons c rest => exact hlast
  · rintro ⟨⟨hp, hq, hr, hs⟩, hrest, hlone, hlast⟩
    refine ⟨?_, hlength ▸ hlone, ?_⟩
    · simp only [List.forall_mem_cons]
      exact ⟨hp, hq, hr, hs, hrest⟩
    · rw [hspare]
      cases rest with
      | nil => exact fun _ _ n _ => Nat.mod_one n
      | cons c rest => exact hlast

/-- **Canonical text is what is written** for some bytes. -/
theorem isCanonical_iff {cs : List Char} :
    IsCanonical a cs ↔ ∃ bs, cs = encode a false bs := by
  simp only [← decode_eq_some_iff]
  fun_induction decode a cs with
  | case1 => exact ⟨fun _ => ⟨[], rfl⟩, fun _ => ⟨nofun, nofun, nofun⟩⟩
  | case2 c => exact ⟨fun h => absurd rfl h.length, nofun⟩
  | case3 p q =>
    simp only [Option.bind_eq_bind, Option.bind_eq_some_iff, Option.ite_none_right_eq_some]
    constructor
    · rintro ⟨hsymbols, -, hlast⟩
      obtain ⟨m, hm⟩ := Alphabet.mem_symbols.mp (hsymbols p (by simp))
      obtain ⟨n, hn⟩ := Alphabet.mem_symbols.mp (hsymbols q (by simp))
      exact ⟨_, m, hm, n, hn, hlast q rfl n (Alphabet.getElem?_symbols.mpr hn), rfl⟩
    · rintro ⟨_, m, hm, n, hn, hzero, -⟩
      refine ⟨by simp [Alphabet.mem_symbols, hm, hn], nofun, ?_⟩
      rintro _ ⟨⟩ _ hn'
      rw [Alphabet.getElem?_symbols] at hn'
      obtain rfl := Option.some.inj (hn.symm.trans hn')
      exact hzero
  | case4 p q r =>
    simp only [Option.bind_eq_bind, Option.bind_eq_some_iff, Option.ite_none_right_eq_some]
    constructor
    · rintro ⟨hsymbols, -, hlast⟩
      obtain ⟨m, hm⟩ := Alphabet.mem_symbols.mp (hsymbols p (by simp))
      obtain ⟨n, hn⟩ := Alphabet.mem_symbols.mp (hsymbols q (by simp))
      obtain ⟨k, hk⟩ := Alphabet.mem_symbols.mp (hsymbols r (by simp))
      exact ⟨_, m, hm, n, hn, k, hk, hlast r rfl k (Alphabet.getElem?_symbols.mpr hk), rfl⟩
    · rintro ⟨_, m, hm, n, hn, k, hk, hzero, -⟩
      refine ⟨by simp [Alphabet.mem_symbols, hm, hn, hk], nofun, ?_⟩
      rintro _ ⟨⟩ _ hk'
      rw [Alphabet.getElem?_symbols] at hk'
      obtain rfl := Option.some.inj (hk.symm.trans hk')
      exact hzero
  | case5 p q r s rest ih =>
    simp only [Option.bind_eq_bind, Option.bind_eq_some_iff]
    rw [isCanonical_group, ih]
    simp only [Alphabet.mem_symbols]
    constructor
    · rintro ⟨⟨⟨m, hm⟩, ⟨n, hn⟩, ⟨k, hk⟩, l, hl⟩, tail, htail⟩
      exact ⟨_, m, hm, n, hn, k, hk, l, hl, tail, htail, rfl⟩
    · rintro ⟨_, m, hm, n, hn, k, hk, l, hl, tail, htail, -⟩
      exact ⟨⟨⟨m, hm⟩, ⟨n, hn⟩, ⟨k, hk⟩, l, hl⟩, tail, htail⟩

/-! ## Padding -/

/-- **Written text** consists of symbols. -/
theorem exists_of_mem_encode {bs : List UInt8} {c : Char} (h : c ∈ encode a false bs) :
    ∃ n < 64, c = a.symbol n := by
  have hsymbols := (isCanonical_iff.mpr ⟨bs, rfl⟩ : IsCanonical a (encode a false bs)).symbols c h
  obtain ⟨n, hn⟩ := Alphabet.mem_symbols.mp hsymbols
  exact ⟨n, Alphabet.value?_eq_some_iff.mp hn⟩

/-- **Padding** follows the unpadded text. -/
theorem exists_encode_eq (padded : Bool) (bs : List UInt8) :
    ∃ k, encode a padded bs = encode a false bs ++ List.replicate k '=' := by
  cases padded with
  | false => exact ⟨0, (List.append_nil _).symm⟩
  | true =>
    fun_induction encode a true bs with
    | case1 => exact ⟨0, rfl⟩
    | case2 x => exact ⟨2, rfl⟩
    | case3 x y => exact ⟨1, rfl⟩
    | case4 x y z rest ih =>
      obtain ⟨k, hk⟩ := ih
      exact ⟨k, by simp only [encode, hk, List.cons_append]⟩

/-- The padding character is no symbol. -/
theorem pad_not_mem_encode (bs : List UInt8) : '=' ∉ encode a false bs := by
  intro h
  obtain ⟨n, hn, hpad⟩ := exists_of_mem_encode h
  exact Alphabet.symbol_ne_pad hn hpad.symm

variable (a) in
/-- **A spelling** of bytes: their canonical text, and behind it any number of padding
characters. -/
def Spells (cs : List Char) (bs : List UInt8) : Prop :=
  ∃ k, cs = encode a false bs ++ List.replicate k '='

/-- Whether padding is asked for or not, what is written is a spelling. -/
theorem spells_encode (padded : Bool) (bs : List UInt8) : Spells a (encode a padded bs) bs :=
  exists_encode_eq padded bs

/-- **Reading without regard to padding** finds the bytes that a text spells. -/
theorem decode_dropEndWhile_eq_some_iff {cs : List Char} {bs : List UInt8} :
    decode a (dropEndWhile (· == '=') cs) = some bs ↔ Spells a cs bs := by
  rw [decode_eq_some_iff]
  constructor
  · intro h
    obtain ⟨k, hk⟩ := exists_eq_dropEndWhile_append '=' cs
    rw [h] at hk
    exact ⟨k, hk⟩
  · rintro ⟨k, rfl⟩
    exact dropEndWhile_append_replicate (pad_not_mem_encode bs) k

/-! ## Padded text -/

/-- A group of symbols is read on its own, and so is what follows. -/
theorem decodePadded_group {p q r s : Char} (hs : s ≠ '=') (rest : List Char) :
    decodePadded a (p :: q :: r :: s :: rest) =
      (decode a [p, q, r, s]).bind fun head => (decodePadded a rest).map (head ++ ·) := by
  rw [decodePadded]
  · cases decode a [p, q, r, s] <;> cases decodePadded a rest <;> rfl
  · rintro rfl rfl
    exact absurd rfl hs
  · rintro rfl
    exact absurd rfl hs

/-- **Reading** what was written with padding. -/
theorem decodePadded_encode (bs : List UInt8) : decodePadded a (encode a true bs) = some bs := by
  fun_induction encode a true bs with
  | case1 => rfl
  | case2 x => exact decode_encode [x]
  | case3 x y =>
    have hr : a.symbol (y.toNat % 16 * 4) ≠ '=' := Alphabet.symbol_ne_pad (by omega)
    simp only [if_true]
    rw [decodePadded]
    · exact decode_encode [x, y]
    · intro h
      exact absurd h hr
  | case4 x y z rest ih =>
    have hs : a.symbol (z.toNat % 64) ≠ '=' := Alphabet.symbol_ne_pad (by omega)
    have hhead := decode_encode (a := a) [x, y, z]
    rw [encode, encode] at hhead
    rw [decodePadded_group hs, hhead, ih]
    rfl

/-- Four symbols are written for three bytes. -/
theorem exists_eq_of_encode_group {p q r s : Char} {bs : List UInt8}
    (h : encode a false bs = [p, q, r, s]) : ∃ x y z, bs = [x, y, z] := by
  match bs with
  | [] => cases h
  | [x] => cases h
  | [x, y] => cases h
  | [x, y, z] => exact ⟨x, y, z, rfl⟩
  | x :: y :: z :: w :: rest =>
    rw [encode] at h
    simp only [List.cons.injEq] at h
    obtain ⟨-, -, -, -, hnil⟩ := h
    have hbytes := decode_encode (a := a) (w :: rest)
    rw [hnil] at hbytes
    cases hbytes

/-- **Writing again** with padding. -/
theorem encode_of_decodePadded {cs : List Char} {bs : List UInt8}
    (h : decodePadded a cs = some bs) :
    encode a true bs = cs := by
  fun_induction decodePadded a cs generalizing bs with
  | case1 =>
    cases h
    rfl
  | case2 p q =>
    have hencode := encode_of_decode h
    match bs with
    | [] => cases hencode
    | [x] => exact congrArg (· ++ ['=', '=']) hencode
    | [x, y] => cases hencode
    | x :: y :: z :: rest => cases hencode
  | case3 p q r hr =>
    have hencode := encode_of_decode h
    match bs with
    | [] => cases hencode
    | [x] => cases hencode
    | [x, y] => exact congrArg (· ++ ['=']) hencode
    | x :: y :: z :: rest => cases hencode
  | case4 p q r s rest _ _ ih =>
    simp only [Option.bind_eq_bind, Option.bind_eq_some_iff] at h
    obtain ⟨head, hhead, tail, htail, ⟨⟩⟩ := h
    have hencode := encode_of_decode hhead
    obtain ⟨x, y, z, rfl⟩ := exists_eq_of_encode_group hencode
    exact congrArg₂ (· ++ ·) hencode (ih htail)
  | case5 => cases h

/-- **Reading padded text is the inverse of writing it.** -/
theorem decodePadded_eq_some_iff {cs : List Char} {bs : List UInt8} :
    decodePadded a cs = some bs ↔ cs = encode a true bs := by
  constructor
  · intro h
    exact (encode_of_decodePadded h).symm
  · rintro rfl
    exact decodePadded_encode bs

end Outbound.Encoding.Base64
