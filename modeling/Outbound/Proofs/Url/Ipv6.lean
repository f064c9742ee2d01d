import Outbound.Proofs.Url.Ipv4

/-!
# IPv6 addresses and their texts

The text of an address is read as this address.

* **pieces** — the hexadecimal numeral of a piece is read as the piece (`ipv6Piece?_toDigits`), and
  so is a row of them (`ipv6Pieces?_map`);
* **zeros** — the run that is left out is one of zeros (`isRun_longestZeroRun`);
* **parts** — the parts around `::`, whether there are any or not, are found again
  (`ipv6Parts?_around`);
* **addresses** — whatever is read has eight pieces of 16 bits (`of_ipv6?`), and such an address is
  read from its text (`ipv6?_ipv6Text`).
-/

namespace Outbound.Url

open Outbound.Text

/-! ## Pieces -/

theorem hexValue?_digitChar {n : Nat} (h : n < 16) : hexValue? n.digitChar = some n := by
  revert n
  decide

theorem not_mem_toDigits_sixteen {c : Char} (hc : ∀ d < 16, d.digitChar ≠ c) (n : Nat) :
    c ∉ Nat.toDigits 16 n :=
  fun h => forall_mem_toDigits (p := (· ≠ c)) (by decide) hc n c h rfl

/-- **Hexadecimal digits** are read in front of nothing as the number that they write. -/
theorem foldlM_toDigits (n : Nat) :
    (Nat.toDigits 16 n).foldlM (fun m c => (hexValue? c).map (m * 16 + ·)) 0 = some n := by
  induction n using Nat.strongRecOn with
  | ind n ih =>
    have hlast := hexValue?_digitChar (Nat.mod_lt n (by decide : 0 < 16))
    rw [Nat.toDigits_eq_if (by decide)]
    split
    case isTrue h =>
      rw [Nat.mod_eq_of_lt h] at hlast
      simp [hlast]
    case isFalse h =>
      have hdiv : n / 16 * 16 + n % 16 = n := by omega
      rw [List.foldlM_append, ih (n / 16) (by omega)]
      simp [hlast, hdiv]

/-- **Reading a piece back.** -/
theorem ipv6Piece?_toDigits {n : Nat} (h : n < 65536) :
    ipv6Piece? (Nat.toDigits 16 n) = some n := by
  have hlength : (Nat.toDigits 16 n).length ≤ 4 :=
    (Nat.length_toDigits_le_iff (by decide) (by decide)).mpr h
  have hfits : ((Nat.toDigits 16 n).isEmpty || decide (4 < (Nat.toDigits 16 n).length)) =
      false := by
    simp [hlength]
  rw [ipv6Piece?, hfits, if_neg Bool.false_ne_true, foldlM_toDigits]

theorem lt_of_hexValue? {c : Char} {d : Nat} (h : hexValue? c = some d) : d < 16 := by
  rw [hexValue?] at h
  split at h
  · rename_i hdigit
    obtain rfl := Option.some.inj h
    have hle : c.toNat ≤ 57 := by
      simp only [Char.isDigit, Bool.and_eq_true, decide_eq_true_eq] at hdigit
      exact hdigit.2
    omega
  · split at h
    · rename_i hlower
      obtain rfl := Option.some.inj h
      have hle : c.toNat ≤ 102 := hlower.2
      omega
    · split at h
      · rename_i hupper
        obtain rfl := Option.some.inj h
        have hle : c.toNat ≤ 70 := hupper.2
        omega
      · cases h

/-- **A piece** has four digits at most. -/
theorem lt_of_ipv6Piece? {cs : List Char} {n : Nat} (h : ipv6Piece? cs = some n) : n < 65536 := by
  have hfold : ∀ (cs : List Char) (m n : Nat),
      cs.foldlM (fun m c => (hexValue? c).map (m * 16 + ·)) m = some n →
        n < (m + 1) * 16 ^ cs.length := by
    intro cs
    induction cs with
    | nil =>
      intro m n h
      obtain rfl := Option.some.inj h
      simp
    | cons c cs ih =>
      intro m n h
      rw [List.foldlM_cons] at h
      obtain ⟨m', hm', h⟩ := Option.bind_eq_some_iff.mp h
      obtain ⟨d, hd, rfl⟩ := Option.map_eq_some_iff.mp hm'
      have hlt := lt_of_hexValue? hd
      calc n < (m * 16 + d + 1) * 16 ^ cs.length := ih _ _ h
        _ ≤ ((m + 1) * 16) * 16 ^ cs.length := Nat.mul_le_mul_right _ (by omega)
        _ = (m + 1) * 16 ^ (c :: cs).length := by
          rw [List.length_cons, Nat.pow_succ', Nat.mul_assoc]
  rw [ipv6Piece?] at h
  obtain ⟨hfits, h⟩ := Option.ite_none_left_eq_some.mp h
  obtain ⟨-, hlength⟩ : ¬ cs = [] ∧ cs.length ≤ 4 := by simpa using hfits
  have hpow := Nat.pow_le_pow_right (n := 16) (by decide) hlength
  have hlt := hfold cs 0 n h
  omega

theorem lt_of_ipv4Pieces? {cs : List Char} {pieces : List Nat} (h : ipv4Pieces? cs = some pieces) :
    ∀ n ∈ pieces, n < 65536 := by
  rw [ipv4Pieces?] at h
  obtain ⟨bytes, hbytes, h⟩ := Option.bind_eq_some_iff.mp h
  have hle : ∀ n ∈ bytes, n ≤ 255 := by
    refine forall_mem_of_mapM (fun ds n hn => ?_) hbytes
    obtain ⟨-, hn⟩ := Option.ite_none_left_eq_some.mp hn
    obtain ⟨hbyte, hn⟩ := Option.ite_none_right_eq_some.mp hn
    exact Option.some.inj hn ▸ hbyte
  split at h
  case h_1 a b c d =>
    obtain rfl := Option.some.inj h
    have ha := hle a (by simp)
    have hb := hle b (by simp)
    have hc := hle c (by simp)
    have hd := hle d (by simp)
    intro n hn
    simp only [List.mem_cons, List.not_mem_nil, or_false] at hn
    omega
  case h_2 => cases h

/-- **All pieces** have four digits at most. -/
theorem lt_of_ipv6Pieces? {final : Bool} {parts : List (List Char)} {pieces : List Nat}
    (h : ipv6Pieces? final parts = some pieces) : ∀ n ∈ pieces, n < 65536 := by
  fun_induction ipv6Pieces? final parts generalizing pieces with
  | case1 =>
    obtain rfl := Option.some.inj h
    exact fun n hn => absurd hn List.not_mem_nil
  | case2 last hfinal => exact lt_of_ipv4Pieces? h
  | case3 last hfinal =>
    obtain ⟨n, hn, rfl⟩ := Option.map_eq_some_iff.mp h
    exact List.forall_mem_singleton.mpr (lt_of_ipv6Piece? hn)
  | case4 piece rest hrest ih =>
    obtain ⟨n, hn, h⟩ := Option.bind_eq_some_iff.mp h
    obtain ⟨ns, hns, h⟩ := Option.bind_eq_some_iff.mp h
    obtain rfl := Option.some.inj h
    exact List.forall_mem_cons.mpr ⟨lt_of_ipv6Piece? hn, ih hns⟩

/-- **A row of pieces** is read back. -/
theorem ipv6Pieces?_map (final : Bool) {pieces : List Nat} (h : ∀ n ∈ pieces, n < 65536) :
    ipv6Pieces? final (pieces.map (Nat.toDigits 16)) = some pieces := by
  induction pieces with
  | nil => rfl
  | cons n ns ih =>
    obtain ⟨hn, hns⟩ := List.forall_mem_cons.mp h
    cases ns with
    | nil =>
      have hdot : (Nat.toDigits 16 n).contains '.' = false := by
        rw [← Bool.not_eq_true, List.contains_iff_mem]
        exact not_mem_toDigits_sixteen (by decide) n
      rw [List.map_singleton, ipv6Pieces?, hdot, Bool.and_false, ipv6Piece?_toDigits hn]
      rfl
    | cons m ms =>
      have hrest := ih hns
      rw [List.map_cons] at hrest
      rw [List.map_cons, List.map_cons, ipv6Pieces?, ipv6Piece?_toDigits hn, hrest]
      · rfl
      · exact nofun

/-! ## Zeros -/

/-- **A run of zeros** in a list of pieces, by its place and length. -/
def IsRun (pieces : List Nat) (run : Nat × Nat) : Prop :=
  pieces.drop run.1 = List.replicate run.2 0 ++ pieces.drop (run.1 + run.2)

theorem isRun_zeroRun (pieces : List Nat) (i : Nat) :
    IsRun pieces (i, zeroRun (pieces.drop i)) := by
  have hzeros : (pieces.drop i).takeWhile (· = 0) = List.replicate (zeroRun (pieces.drop i)) 0 := by
    refine List.eq_replicate_of_mem fun n hn => ?_
    simpa using List.mem_takeWhile_imp hn
  have hrest : pieces.drop (i + zeroRun (pieces.drop i)) = (pieces.drop i).dropWhile (· = 0) := by
    have hleft : ((pieces.drop i).takeWhile (· = 0) ++ (pieces.drop i).dropWhile (· = 0)).drop
        ((pieces.drop i).takeWhile (· = 0)).length = (pieces.drop i).dropWhile (· = 0) :=
      List.drop_left
    rwa [List.takeWhile_append_dropWhile, List.drop_drop] at hleft
  rw [IsRun, hrest, ← hzeros, List.takeWhile_append_dropWhile]

/-- **The longest run** is one of zeros. -/
theorem isRun_longestZeroRun (pieces : List Nat) : IsRun pieces (longestZeroRun pieces) := by
  have hfold : ∀ (places : List Nat) (best : Nat × Nat), IsRun pieces best →
      IsRun pieces (places.foldl (fun best i =>
        let run := zeroRun (pieces.drop i)
        if best.2 < run then (i, run) else best) best) := by
    intro places
    induction places with
    | nil => exact fun _ h => h
    | cons i places ih =>
      intro best h
      refine ih _ ?_
      dsimp only
      split
      · exact isRun_zeroRun pieces i
      · exact h
  exact hfold _ _ rfl

/-! ## IPv6 -/

/-- The text of a row of pieces. -/
def row (pieces : List Nat) : List Char := [':'].intercalate (pieces.map (Nat.toDigits 16))

theorem toList_ipv6Text (pieces : List Nat) :
    (ipv6Text pieces).toList =
      let (start, run) := longestZeroRun pieces
      if 2 ≤ run then row (pieces.take start) ++ ':' :: ':' :: row (pieces.drop (start + run))
      else row pieces := by
  have hrow : ∀ ps : List Nat, (":".intercalate (ps.map hexNumeral)).toList = row ps := by
    intro ps
    have hnumeral : String.toList ∘ hexNumeral = Nat.toDigits 16 :=
      funext fun _ => String.toList_ofList
    rw [String.toList_intercalate, List.map_map, hnumeral]
    rfl
  rw [ipv6Text]
  dsimp only
  split
  · rw [String.toList_append, String.toList_append, hrow, hrow, List.append_assoc]
    rfl
  · exact hrow pieces

/-- **The text of an address** has hexadecimal digits and colons only. -/
theorem forall_mem_ipv6Text {p : Char → Prop} (hp : ∀ d < 16, p d.digitChar) (hcolon : p ':')
    (pieces : List Nat) : ∀ c ∈ (ipv6Text pieces).toList, p c := by
  have hrow : ∀ ps : List Nat, ∀ c ∈ row ps, p c := by
    refine fun ps => forall_mem_intercalate hcolon fun part hpart => ?_
    obtain ⟨n, -, rfl⟩ := List.mem_map.mp hpart
    exact forall_mem_toDigits (by decide) hp n
  rw [toList_ipv6Text]
  dsimp only
  split
  · refine List.forall_mem_append.mpr ⟨hrow _, ?_⟩
    exact List.forall_mem_cons.mpr ⟨hcolon, List.forall_mem_cons.mpr ⟨hcolon, hrow _⟩⟩
  · exact hrow _

/-- Numerals of pieces, which are not empty and have no colon. -/
def IsPart (part : List Char) : Prop := part ≠ [] ∧ ':' ∉ part

theorem isPart_toDigits (n : Nat) : IsPart (Nat.toDigits 16 n) :=
  ⟨Nat.toDigits_ne_nil, not_mem_toDigits_sixteen (by decide) n⟩

/-- What is left at the front: a `::` there is one empty part. -/
def openParts : List (List Char) → Option (List (List Char))
  | [] :: [] :: p :: rest => some ([] :: p :: rest)
  | [] :: _ => none
  | parts => some parts

/-- What is left at the end. -/
def closeParts (parts : List (List Char)) : Option (List (List Char)) :=
  match parts.reverse with
  | [] :: [] :: rest => some ([] :: rest).reverse
  | [] :: _ :: _ => none
  | _ => some parts

theorem ipv6Parts?_eq (cs : List Char) :
    ipv6Parts? cs = (openParts (cs.splitOn ':')).bind closeParts := by
  unfold ipv6Parts?
  generalize cs.splitOn ':' = parts
  rcases parts with _ | ⟨_ | ⟨c, first⟩, _ | ⟨_ | ⟨d, second⟩, _ | ⟨third, rest⟩⟩⟩ <;> rfl

section Parts

variable {part : List Char} {parts front back : List (List Char)}

theorem openParts_cons (h : part ≠ []) : openParts (part :: parts) = some (part :: parts) := by
  obtain ⟨c, cs, rfl⟩ := List.exists_cons_of_ne_nil h
  rfl

theorem openParts_nil_nil (h : parts ≠ []) :
    openParts ([] :: [] :: parts) = some ([] :: parts) := by
  obtain ⟨p, rest, rfl⟩ := List.exists_cons_of_ne_nil h
  rfl

theorem closeParts_concat (h : part ≠ []) :
    closeParts (parts ++ [part]) = some (parts ++ [part]) := by
  obtain ⟨c, cs, rfl⟩ := List.exists_cons_of_ne_nil h
  rw [closeParts, List.reverse_concat]

theorem closeParts_end : closeParts (parts ++ [[], []]) = some (parts ++ [[]]) := by
  rw [closeParts, List.reverse_append]
  simp

/-- **Without `::`** the parts are those between the colons. -/
theorem ipv6Parts?_intercalate (hne : parts ≠ []) (h : ∀ part ∈ parts, IsPart part) :
    ipv6Parts? ([':'].intercalate parts) = some parts := by
  have hsplit : ([':'].intercalate parts).splitOn ':' = parts :=
    List.splitOn_intercalate ':' (fun part hpart => (h part hpart).2) hne
  have hopen : openParts parts = some parts := by
    obtain ⟨first, rest, rfl⟩ := List.exists_cons_of_ne_nil hne
    exact openParts_cons (h first List.mem_cons_self).1
  have hclose : closeParts parts = some parts := by
    obtain ⟨init, last, rfl⟩ := (List.eq_nil_or_concat' parts).resolve_left hne
    exact closeParts_concat (h last (by simp)).1
  rw [ipv6Parts?_eq, hsplit, hopen, Option.bind_some, hclose]

/-- The parts at one side of `::` as they are split: none are one empty part. -/
def sideParts (parts : List (List Char)) : List (List Char) := if parts = [] then [[]] else parts

theorem sideParts_ne_nil : sideParts parts ≠ [] := by
  rw [sideParts]
  split
  · exact List.cons_ne_nil _ _
  · assumption

theorem intercalate_sideParts (parts : List (List Char)) :
    [':'].intercalate (sideParts parts) = [':'].intercalate parts := by
  rw [sideParts]
  split
  case isTrue h => rw [h]; rfl
  case isFalse => rfl

theorem not_mem_of_mem_sideParts (h : ∀ part ∈ parts, IsPart part) :
    ∀ part ∈ sideParts parts, ':' ∉ part := by
  rw [sideParts]
  split
  · exact List.forall_mem_singleton.mpr List.not_mem_nil
  · exact fun part hpart => (h part hpart).2

/-- **Around `::`** the parts are those between the colons, and one empty part for it. -/
theorem ipv6Parts?_around (hfront : ∀ part ∈ front, IsPart part)
    (hback : ∀ part ∈ back, IsPart part) :
    ipv6Parts? ([':'].intercalate front ++ ':' :: ':' :: [':'].intercalate back) =
      some (front ++ [] :: back) := by
  have hsplit : ([':'].intercalate front ++ ':' :: ':' :: [':'].intercalate back).splitOn ':' =
      sideParts front ++ [] :: sideParts back := by
    rw [← intercalate_sideParts front, ← intercalate_sideParts back]
    have hcolons : ':' :: [':'].intercalate (sideParts back) =
        [':'].intercalate ([] :: sideParts back) := by
      rw [List.intercalate_cons_of_ne_nil sideParts_ne_nil]
      rfl
    rw [hcolons, ← intercalate_append sideParts_ne_nil (List.cons_ne_nil _ _)]
    refine List.splitOn_intercalate ':' ?_ (List.append_ne_nil_of_left_ne_nil sideParts_ne_nil _)
    refine List.forall_mem_append.mpr ⟨not_mem_of_mem_sideParts hfront, ?_⟩
    exact List.forall_mem_cons.mpr ⟨List.not_mem_nil, not_mem_of_mem_sideParts hback⟩
  rw [ipv6Parts?_eq, hsplit]
  rcases front with _ | ⟨first, front⟩
  · rcases List.eq_nil_or_concat' back with rfl | ⟨init, last, rfl⟩
    · rfl
    · have hne : init ++ [last] ≠ [] := List.concat_ne_nil _ _
      have hlast := (hback last (by simp)).1
      rw [sideParts, if_pos rfl, sideParts, if_neg hne]
      rw [List.singleton_append, openParts_nil_nil hne, Option.bind_some, ← List.cons_append,
        closeParts_concat hlast]
      rfl
  · have hfirst := (hfront first List.mem_cons_self).1
    rw [sideParts, if_neg (List.cons_ne_nil _ _), List.cons_append, openParts_cons hfirst,
      Option.bind_some, ← List.cons_append]
    rcases List.eq_nil_or_concat' back with rfl | ⟨init, last, rfl⟩
    · exact closeParts_end
    · have hlast := (hback last (by simp)).1
      rw [sideParts, if_neg (List.concat_ne_nil _ _), ← List.cons_append, ← List.append_assoc]
      exact closeParts_concat hlast

end Parts

/-- **What is read as an IPv6 address** has eight pieces of four digits at most. -/
theorem of_ipv6? {cs : List Char} {pieces : List Nat} (h : ipv6? cs = some pieces) :
    pieces.length = 8 ∧ ∀ n ∈ pieces, n < 65536 := by
  unfold ipv6? at h
  dsimp only at h
  obtain ⟨-, h⟩ := Option.ite_none_left_eq_some.mp h
  obtain ⟨parts, -, h⟩ := Option.bind_eq_some_iff.mp h
  split at h
  case h_1 =>
    obtain ⟨ps, hps, h⟩ := Option.bind_eq_some_iff.mp h
    obtain ⟨hlength, h⟩ := Option.ite_none_right_eq_some.mp h
    obtain rfl := Option.some.inj h
    exact ⟨hlength, lt_of_ipv6Pieces? hps⟩
  case h_2 =>
    obtain ⟨front, hfront, h⟩ := Option.bind_eq_some_iff.mp h
    obtain ⟨back, hback, h⟩ := Option.bind_eq_some_iff.mp h
    obtain ⟨hknown, h⟩ := Option.ite_none_right_eq_some.mp h
    obtain rfl := Option.some.inj h
    constructor
    · simp only [List.length_append, List.length_replicate]
      omega
    · refine List.forall_mem_append.mpr ⟨List.forall_mem_append.mpr ⟨lt_of_ipv6Pieces? hfront, ?_⟩,
        lt_of_ipv6Pieces? hback⟩
      intro n hn
      rw [List.eq_of_mem_replicate hn]
      decide

theorem isPart_of_mem_map {pieces : List Nat} :
    ∀ part ∈ pieces.map (Nat.toDigits 16), IsPart part := by
  intro part hpart
  obtain ⟨n, -, rfl⟩ := List.mem_map.mp hpart
  exact isPart_toDigits n

section Reading

variable {pieces front back : List Nat}

/-- **Eight pieces** without `::` are read back. -/
theorem ipv6?_row (hlength : pieces.length = 8) (h : ∀ n ∈ pieces, n < 65536) :
    ipv6? (row pieces) = some pieces := by
  have hne : pieces.map (Nat.toDigits 16) ≠ [] := by
    rintro hnil
    rw [List.map_eq_nil_iff.mp hnil] at hlength
    cases hlength
  have hparts : ipv6Parts? (row pieces) = some (pieces.map (Nat.toDigits 16)) :=
    ipv6Parts?_intercalate hne isPart_of_mem_map
  have hcs : (row pieces).isEmpty = false := by
    cases hrow : row pieces with
    | nil => rw [hrow] at hparts; cases hparts
    | cons => rfl
  have hall : ∀ part ∈ pieces.map (Nat.toDigits 16), (!part.isEmpty) = true := fun part hpart => by
    simpa using (isPart_of_mem_map part hpart).1
  have hbefore : (pieces.map (Nat.toDigits 16)).takeWhile (!·.isEmpty) =
      pieces.map (Nat.toDigits 16) :=
    List.takeWhile_eq_self_iff.mpr hall
  have hafter : (pieces.map (Nat.toDigits 16)).dropWhile (!·.isEmpty) = [] :=
    List.dropWhile_eq_nil_iff.mpr hall
  unfold ipv6?
  rw [hcs, if_neg Bool.false_ne_true, hparts]
  dsimp only [Option.bind_eq_bind, Option.bind_some]
  rw [hbefore, hafter]
  dsimp only
  rw [ipv6Pieces?_map true h]
  exact if_pos hlength

/-- **Pieces around `::`** are read back, with zeros in between. -/
theorem ipv6?_around {run : Nat} (hlength : front.length + run + back.length = 8) (hrun : 1 ≤ run)
    (hfront : ∀ n ∈ front, n < 65536) (hback : ∀ n ∈ back, n < 65536) :
    ipv6? (row front ++ ':' :: ':' :: row back) = some (front ++ List.replicate run 0 ++ back) := by
  have hparts : ipv6Parts? (row front ++ ':' :: ':' :: row back) =
      some (front.map (Nat.toDigits 16) ++ [] :: back.map (Nat.toDigits 16)) :=
    ipv6Parts?_around isPart_of_mem_map isPart_of_mem_map
  have hcs : (row front ++ ':' :: ':' :: row back).isEmpty = false := by simp
  have hall : ∀ part ∈ front.map (Nat.toDigits 16), (!part.isEmpty) = true := fun part hpart => by
    simpa using (isPart_of_mem_map part hpart).1
  have hzeros : 8 - (front.length + back.length) = run := by omega
  unfold ipv6?
  rw [hcs, if_neg Bool.false_ne_true, hparts]
  dsimp only [Option.bind_eq_bind, Option.bind_some]
  rw [List.takeWhile_append_of_pos hall, List.dropWhile_append_of_pos hall]
  simp only [List.takeWhile_cons, List.dropWhile_cons, List.isEmpty_nil, Bool.not_true,
    Bool.false_eq_true, if_false, List.append_nil]
  rw [ipv6Pieces?_map false hfront, ipv6Pieces?_map true hback]
  dsimp only [Option.bind_some]
  rw [if_pos (by omega), hzeros]

/-- **Reading back** an IPv6 address. -/
theorem ipv6?_ipv6Text (hlength : pieces.length = 8) (h : ∀ n ∈ pieces, n < 65536) :
    ipv6? (ipv6Text pieces).toList = some pieces := by
  have hrun := isRun_longestZeroRun pieces
  rw [toList_ipv6Text]
  generalize longestZeroRun pieces = longest at hrun ⊢
  obtain ⟨start, run⟩ := longest
  dsimp only
  split
  case isTrue htwo =>
    have hdrop : pieces.drop start = List.replicate run 0 ++ pieces.drop (start + run) := hrun
    have hlengths := congrArg List.length hdrop
    rw [List.length_append, List.length_replicate, List.length_drop, List.length_drop] at hlengths
    have hsum : (pieces.take start).length + run + (pieces.drop (start + run)).length = 8 := by
      rw [List.length_take, List.length_drop]
      omega
    rw [ipv6?_around hsum (by omega) (fun n hn => h n (List.mem_of_mem_take hn))
      (fun n hn => h n (List.mem_of_mem_drop hn)), List.append_assoc, ← hdrop,
      List.take_append_drop]
  case isFalse => exact ipv6?_row hlength h

end Reading

end Outbound.Url
