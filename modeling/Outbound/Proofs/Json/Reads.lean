import Outbound.Json.Typed
import Outbound.Proofs.Text.Utf8

/-!
# What readers read

A reader takes a text from the front and leaves what stands behind it. The lemmas say this of every
part of a reader, so that what a reader makes of a text is put together from what its parts make of
the parts of the text.

* **reading** — `Reads reader cs a` says that the reader takes just `cs` and answers `a`, whatever
  follows; sequences of readers read texts that are joined (`Reads.bind`);
* **tokens** — peeking sees the first character of a token and leaves it (`Reads.peek_bind`); a
  character or a word is expected and taken (`reads_expect`, `reads_word`);
* **strings** — an escaped character stands for its own bytes (`stringBytes_escape`), so a string in
  quotes is read as itself (`reads_string`), whatever characters it has.
-/

namespace Outbound.Json.Reader

open Outbound.Text

variable {α β : Type}

/-! ## Reading -/

/-- **A reader reads a text** as a value if it takes just this text, whatever stands behind it. -/
def Reads (reader : Reader α) (cs : List Char) (a : α) : Prop :=
  ∀ rest, StateT.run reader (Utf8.encode cs ++ rest) = .ok (a, rest)

theorem Reads.pure (a : α) : Reads (Pure.pure a) [] a := fun _ => rfl

/-- **One after the other**, two readers read two texts that are joined. -/
theorem Reads.bind {reader : Reader α} {next : α → Reader β} {cs ds : List Char} {a : α} {b : β}
    (h : Reads reader cs a) (hnext : Reads (next a) ds b) :
    Reads (reader >>= next) (cs ++ ds) b := by
  intro rest
  rw [StateT.run_bind, Utf8.encode_append, List.append_assoc, h]
  exact hnext rest

/-- One character and what follows it. -/
theorem Reads.bind_cons {reader : Reader α} {next : α → Reader β} {c : Char} {cs : List Char}
    {a : α} {b : β} (h : Reads reader [c] a) (hnext : Reads (next a) cs b) :
    Reads (reader >>= next) (c :: cs) b := h.bind hnext

theorem Reads.map {reader : Reader α} {cs : List Char} {a : α} (h : Reads reader cs a) (f : α → β) :
    Reads (reader >>= fun a => Pure.pure (f a)) cs (f a) := by
  intro rest
  rw [StateT.run_bind, h]
  rfl

theorem Reads.within {reader : Reader α} {cs : List Char} {a : α} (h : Reads reader cs a)
    (name : String) : Reads (reader.within name) cs a := by
  intro rest
  have hrun : reader (Utf8.encode cs ++ rest) = .ok (a, rest) := h rest
  change (reader (Utf8.encode cs ++ rest)).mapError (ReadError.within name) = .ok (a, rest)
  rw [hrun]
  rfl

/-- **A whole document** is what a reader reads as it stands. -/
theorem run_of_reads {reader : Reader α} {cs : List Char} {a : α} (h : Reads reader cs a) :
    run reader (Utf8.encode cs) = .ok a := by
  have hrun : StateT.run reader (Utf8.encode cs) = .ok (a, []) := by
    rw [← List.append_nil (Utf8.encode cs)]
    exact h []
  rw [run, StateT.run'_eq, StateT.run_bind, hrun]
  rfl

/-! ## Tokens -/

/-- **What a token begins with**: an ASCII character that is no blank. -/
def BeginsToken (c : Char) : Prop := c.toNat < 0x80 ∧ ¬ isGap (UInt8.ofNat c.toNat)

instance (c : Char) : Decidable (BeginsToken c) := inferInstanceAs (Decidable (_ ∧ _))

theorem encode_cons_of_lt {c : Char} (h : c.toNat < 0x80) (cs : List Char) :
    Utf8.encode (c :: cs) = UInt8.ofNat c.toNat :: Utf8.encode cs := by
  rw [Utf8.encode_cons, Utf8.utf8EncodeChar_of_lt h, List.singleton_append]

theorem ascii_ofNat {c : Char} (h : c.toNat < 0x80) : ascii (UInt8.ofNat c.toNat) = c := by
  have htoNat : (UInt8.ofNat c.toNat).toNat = c.toNat :=
    UInt8.toNat_ofNat_of_lt' (Nat.lt_trans h (by decide))
  rw [ascii, htoNat, Char.ofNat_toNat]

/-- **Peeking** at a token leaves it. -/
theorem run_peek {c : Char} (h : BeginsToken c) (cs : List Char) (rest : List UInt8) :
    StateT.run peek (Utf8.encode (c :: cs) ++ rest) = .ok (c, Utf8.encode (c :: cs) ++ rest) := by
  have hgap : List.dropWhile isGap (UInt8.ofNat c.toNat :: (Utf8.encode cs ++ rest)) =
      UInt8.ofNat c.toNat :: (Utf8.encode cs ++ rest) := List.dropWhile_cons_of_neg h.2
  have hpeek : StateT.run peek (UInt8.ofNat c.toNat :: (Utf8.encode cs ++ rest)) =
      .ok (ascii (UInt8.ofNat c.toNat), UInt8.ofNat c.toNat :: (Utf8.encode cs ++ rest)) := by
    simp only [peek, peek?, gap, StateT.run_bind, StateT.run_modify, hgap]
    rfl
  rw [encode_cons_of_lt h.1, List.cons_append, hpeek, ascii_ofNat h.1]

/-- What is done after peeking is done with the token still there. -/
theorem Reads.peek_bind {next : Char → Reader β} {c : Char} {cs : List Char} {b : β}
    (hc : BeginsToken c) (h : Reads (next c) (c :: cs) b) : Reads (peek >>= next) (c :: cs) b := by
  intro rest
  rw [StateT.run_bind, run_peek hc]
  exact h rest

theorem reads_skip {c : Char} (h : c.toNat < 0x80) : Reads skip [c] () := by
  intro rest
  rw [encode_cons_of_lt h]
  rfl

/-- **An expected character** is taken. -/
theorem reads_expect {c : Char} (h : BeginsToken c) : Reads (expect c) [c] () := by
  refine .peek_bind h ?_
  rw [if_pos rfl]
  exact reads_skip h.1

/-- **An expected word** is taken. -/
theorem reads_word {cs : List Char} (h : cs.all (·.toNat < 0x80)) : Reads (word cs) cs () := by
  induction cs with
  | nil => exact .pure ()
  | cons c cs ih =>
    intro rest
    rw [List.all_cons, Bool.and_eq_true, decide_eq_true_eq] at h
    obtain ⟨hc, hcs⟩ := h
    have hrest := ih hcs rest
    rw [encode_cons_of_lt hc, List.cons_append, word, StateT.run_bind, StateT.run_get]
    change StateT.run (if ascii (UInt8.ofNat c.toNat) = c then _ else _) _ = _
    rw [if_pos (ascii_ofNat hc)]
    exact hrest

/-! ## Strings -/

/-- Bytes that are neither quotes nor backslashes nor controls stand for themselves. -/
theorem stringBytes_append {bs : List UInt8}
    (h : ∀ b ∈ bs, b ≠ 0x22 ∧ ¬ b < 0x20 ∧ b ≠ 0x5C) (rest : List UInt8) :
    stringBytes (bs ++ rest) = prepend bs (stringBytes rest) := by
  induction bs with
  | nil => cases hrest : stringBytes rest <;> simp [prepend, hrest]
  | cons b bs ih =>
    obtain ⟨hquote, hcontrol, hslash⟩ := h b (List.mem_cons_self ..)
    have hbs := ih fun d hd => h d (List.mem_cons_of_mem b hd)
    rw [List.cons_append, stringBytes.eq_def]
    simp only [if_neg hquote, if_neg hcontrol, if_pos hslash, hbs]
    cases stringBytes rest <;> rfl

/-- A backslash is neither the closing quote nor a control. -/
theorem backslash_escapes : ¬ (0x5C : UInt8) = 0x22 ∧ ¬ (0x5C : UInt8) < 0x20 := by decide

/-- **An escape of one letter** stands for the byte of this letter. -/
theorem stringBytes_short {e b : UInt8} (h : shortEscape? (ascii e) = some b) (rest : List UInt8) :
    stringBytes (0x5C :: e :: rest) = prepend [b] (stringBytes rest) := by
  obtain ⟨hquote, hcontrol⟩ := backslash_escapes
  rw [stringBytes.eq_def]
  simp only [if_neg hquote, if_neg hcontrol, ne_eq, not_true, if_false, h]

/-- **An escaped number** that is no surrogate stands for the character with this number. -/
theorem stringBytes_number {p q r s : UInt8} {n : Nat} (h : hexQuad p q r s = some n)
    (hn : n < 0xD800 ∨ 0xDFFF < n) (rest : List UInt8) :
    stringBytes (0x5C :: 0x75 :: p :: q :: r :: s :: rest) =
      prepend (pointBytes n) (stringBytes rest) := by
  obtain ⟨hquote, hcontrol⟩ := backslash_escapes
  have hu : ascii 0x75 = 'u' := rfl
  have hletter : shortEscape? 'u' = none := rfl
  rw [stringBytes.eq_def]
  simp only [if_neg hquote, if_neg hcontrol, hu, hletter, ne_eq, not_true, if_false, h, if_pos hn]

/-- The byte of a hexadecimal digit. -/
def hexByte (n : Nat) : UInt8 := UInt8.ofNat (hexLower n).toNat

/-- **A control character** is written as its number. -/
theorem stringBytes_control {n : Nat} (h : n < 32) (rest : List UInt8) :
    stringBytes (Utf8.encode ['\\', 'u', '0', '0', hexLower (n / 16), hexLower (n % 16)] ++ rest) =
      prepend (pointBytes n) (stringBytes rest) := by
  have hbytes : ∀ n < 32,
      Utf8.encode ['\\', 'u', '0', '0', hexLower (n / 16), hexLower (n % 16)] =
        [0x5C, 0x75, 0x30, 0x30, hexByte (n / 16), hexByte (n % 16)] := by decide
  have hquad : ∀ n < 32, hexQuad 0x30 0x30 (hexByte (n / 16)) (hexByte (n % 16)) = some n := by
    decide
  have hpoint : n < 0xD800 ∨ 0xDFFF < n := .inl (by omega)
  rw [hbytes n h]
  exact stringBytes_number (hquad n h) hpoint rest

/-- **A character that needs no escape** stands for itself. -/
theorem stringBytes_plain {c : Char} (hquote : c ≠ '"') (hslash : c ≠ '\\')
    (hcontrol : ¬ c.toNat < 32) (rest : List UInt8) :
    stringBytes (String.utf8EncodeChar c ++ rest) =
      prepend (String.utf8EncodeChar c) (stringBytes rest) := by
  refine stringBytes_append (fun b hb => ?_) rest
  rw [UInt8.lt_iff_toNat_lt, ← UInt8.toNat_inj.ne, ← UInt8.toNat_inj.ne]
  by_cases hc : c.toNat < 0x80
  · rw [Utf8.utf8EncodeChar_of_lt hc, List.mem_singleton] at hb
    have htoNat : b.toNat = c.toNat := by
      rw [hb]
      exact UInt8.toNat_ofNat_of_lt' (Nat.lt_trans hc (by decide))
    rw [htoNat]
    refine ⟨fun h => hquote ?_, hcontrol, fun h => hslash ?_⟩
    · exact Char.toNat_inj.mp h
    · exact Char.toNat_inj.mp h
  · have hle : 0x80 ≤ b.toNat := Utf8.le_of_mem_utf8EncodeChar (Nat.le_of_not_lt hc) hb
    refine ⟨?_, ?_, ?_⟩ <;> simp <;> omega

/-- **An escaped character** stands for its own bytes. -/
theorem stringBytes_escape (c : Char) (rest : List UInt8) :
    stringBytes (Utf8.encode (escape c) ++ rest) =
      prepend (String.utf8EncodeChar c) (stringBytes rest) := by
  rw [escape.eq_def]
  split
  case h_8 hquote hslash _ _ _ _ _ =>
    split
    · next hcontrol => rw [stringBytes_control hcontrol, pointBytes, Char.ofNat_toNat]
    · next hcontrol =>
      rw [Utf8.encode_cons, Utf8.encode, List.flatMap_nil, List.append_nil]
      exact stringBytes_plain hquote hslash hcontrol rest
  -- The other escapes have one letter.
  all_goals exact stringBytes_short rfl rest

/-- **Escaped text** up to the closing quote. -/
theorem stringBytes_escaped (cs : List Char) (rest : List UInt8) :
    stringBytes (Utf8.encode (cs.flatMap escape) ++ 0x22 :: rest) = .ok (Utf8.encode cs, rest) := by
  induction cs with
  | nil =>
    change stringBytes (0x22 :: rest) = .ok ([], rest)
    rw [stringBytes.eq_def]
    rfl
  | cons c cs ih =>
    rw [List.flatMap_cons, Utf8.encode_append, List.append_assoc, stringBytes_escape, ih,
      Utf8.encode_cons]
    rfl

/-- **A string in quotes**, from after the opening one, is read as itself. -/
theorem reads_string (s : String) : Reads string (s.toList.flatMap escape ++ ['"']) s := by
  intro rest
  have hbytes : stringBytes (Utf8.encode (s.toList.flatMap escape ++ ['"']) ++ rest) =
      .ok (Utf8.bytes s, rest) := by
    rw [Utf8.encode_append, List.append_assoc]
    exact stringBytes_escaped s.toList rest
  rw [string, StateT.run_bind, StateT.run_get, pure_bind]
  simp only [hbytes, Utf8.string?_bytes]
  rfl

end Outbound.Json.Reader
