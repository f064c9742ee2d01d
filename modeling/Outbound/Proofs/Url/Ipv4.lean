import Mathlib.Algebra.Group.Nat.Defs
import Outbound.Proofs.Text.Parting
import Outbound.Url.Host

/-!
# IPv4 addresses and their texts

The text of an address is read as this address.

* **numerals** — whatever holds of the digits of a base holds of a numeral (`forall_mem_toDigits`);
* **reading back** — four numbers below 256 are read as the bytes of an address (`ipv4?_ipv4Text`);
* **names** — a name that ends in a number must be an address (`endsInNumber_ipv4Text`), and no
  address is larger than 32 bits (`lt_of_ipv4?`).
-/

namespace Outbound.Url

open Outbound.Text

/-! ## Numerals -/

/-- **Numerals** have digits of their base only. -/
theorem forall_mem_toDigits {b : Nat} {p : Char → Prop} (hb : 1 < b) (hp : ∀ d < b, p d.digitChar)
    (n : Nat) : ∀ c ∈ Nat.toDigits b n, p c := by
  induction n using Nat.strongRecOn with
  | ind n ih =>
    have hlast : p (n % b).digitChar := hp _ (Nat.mod_lt n (by omega))
    rw [Nat.toDigits_eq_if hb]
    split
    case isTrue h =>
      rw [Nat.mod_eq_of_lt h] at hlast
      exact List.forall_mem_singleton.mpr hlast
    case isFalse h =>
      have hlt : n / b < n := Nat.div_lt_self (by omega) hb
      exact List.forall_mem_append.mpr ⟨ih _ hlt, List.forall_mem_singleton.mpr hlast⟩

/-! ## IPv4 -/

/-- The four numbers of an address, the first one for its highest byte. -/
def ipv4Bytes (address : Nat) : List Nat := [3, 2, 1, 0].map fun i => address >>> (8 * i) % 256

theorem lt_of_mem_ipv4Bytes {address n : Nat} (h : n ∈ ipv4Bytes address) : n < 256 := by
  obtain ⟨i, -, rfl⟩ := List.mem_map.mp h
  exact Nat.mod_lt _ (by decide)

theorem toList_ipv4Text (address : Nat) :
    (ipv4Text address).toList = ['.'].intercalate ((ipv4Bytes address).map (Nat.toDigits 10)) := by
  have hdot : ".".toList = ['.'] := by decide
  have hnumber : String.toList ∘ (toString : Nat → String) = Nat.toDigits 10 :=
    funext fun _ => Nat.toList_repr
  rw [ipv4Text, String.toList_intercalate, hdot, ← hnumber, ipv4Bytes]
  rfl

/-- **The dotted form** has digits and dots only. -/
theorem forall_mem_ipv4Text {p : Char → Prop} (hp : ∀ d < 10, p d.digitChar) (hdot : p '.')
    (address : Nat) : ∀ c ∈ (ipv4Text address).toList, p c := by
  rw [toList_ipv4Text]
  refine forall_mem_intercalate hdot fun part hpart => ?_
  obtain ⟨n, -, rfl⟩ := List.mem_map.mp hpart
  exact forall_mem_toDigits (by decide) hp n

theorem not_mem_toDigits {c : Char} (hc : ¬ c.isDigit) (n : Nat) : c ∉ Nat.toDigits 10 n :=
  fun h => hc (Nat.isDigit_of_mem_toDigits (by decide) (by decide) h)

/-- **The labels** of the dotted form are its numbers. -/
theorem splitOn_ipv4Text (address : Nat) :
    (ipv4Text address).toList.splitOn '.' = (ipv4Bytes address).map (Nat.toDigits 10) := by
  rw [toList_ipv4Text]
  refine List.splitOn_intercalate '.' ?_ (by simp [ipv4Bytes])
  intro label hlabel
  obtain ⟨n, -, rfl⟩ := List.mem_map.mp hlabel
  exact not_mem_toDigits (by decide) n

theorem labels_ipv4Text (address : Nat) :
    labels (ipv4Text address).toList = (ipv4Bytes address).map (Nat.toDigits 10) := by
  rw [labels, splitOn_ipv4Text, if_neg]
  simp [ipv4Bytes]

theorem ipv4Number?_toDigits {n : Nat} (h : n < 256) :
    ipv4Number? (Nat.toDigits 10 n) = some n := by
  revert n
  decide +kernel

/-- **What is read as an IPv4 address**: at most four numbers, all but the last one below 256, and
the last one in the bytes that are left. -/
theorem ipv4?_eq_some_iff {cs : List Char} {address : Nat} :
    ipv4? cs = some address ↔ ∃ heads last, (labels cs).mapM ipv4Number? = some (heads ++ [last]) ∧
      heads.length ≤ 3 ∧ last < 1 <<< (8 * (4 - heads.length)) ∧ (∀ n ∈ heads, n ≤ 255) ∧
      heads.zipIdx.foldl (fun address (n, i) => address + n <<< (8 * (3 - i))) last = address := by
  unfold ipv4?
  constructor
  · intro h
    dsimp only at h
    obtain ⟨hfour, h⟩ := Option.ite_none_left_eq_some.mp h
    obtain ⟨numbers, hnumbers, h⟩ := Option.bind_eq_some_iff.mp h
    obtain ⟨last, hlast, h⟩ := Option.bind_eq_some_iff.mp h
    obtain ⟨hfits, h⟩ := Option.ite_none_left_eq_some.mp h
    obtain ⟨heads, rfl⟩ := List.getLast?_eq_some_iff.mp hlast
    have hlength := (mapM_eq_some_iff.mp hnumbers).length_eq
    rw [List.dropLast_concat] at hfits h
    rw [List.length_append, List.length_singleton] at hlength
    simp only [not_or, not_le, List.any_eq_true, decide_eq_true_eq, not_exists, not_and,
      not_lt] at hfits
    exact ⟨heads, last, hnumbers, by omega, hfits.1, hfits.2, Option.some.inj h⟩
  · rintro ⟨heads, last, hnumbers, hthree, hlast, hheads, rfl⟩
    have hlength := (mapM_eq_some_iff.mp hnumbers).length_eq
    rw [List.length_append, List.length_singleton] at hlength
    have hfits : ¬ (1 <<< (8 * (4 - heads.length)) ≤ last ∨ heads.any (255 < ·) = true) := by
      simpa using ⟨hlast, hheads⟩
    dsimp only
    rw [if_neg (by omega), hnumbers, Option.bind_eq_bind, Option.bind_some, List.getLast?_concat,
      Option.bind_eq_bind, Option.bind_some, List.dropLast_concat, if_neg hfits]
    rfl

/-- **Reading back** an IPv4 address. -/
theorem ipv4?_ipv4Text {address : Nat} (h : address < 2 ^ 32) :
    ipv4? (ipv4Text address).toList = some address := by
  have hnumbers : ((ipv4Bytes address).map (Nat.toDigits 10)).mapM ipv4Number? =
      some (ipv4Bytes address) := by
    rw [mapM_eq_some_iff, List.forall₂_map_left_iff, List.forall₂_same]
    exact fun n hn => ipv4Number?_toDigits (lt_of_mem_ipv4Bytes hn)
  rw [← labels_ipv4Text] at hnumbers
  have hlast : address % 256 < 1 <<< (8 * (4 - 3)) := Nat.mod_lt _ (by decide)
  refine ipv4?_eq_some_iff.mpr ⟨[address >>> 24 % 256, address >>> 16 % 256, address >>> 8 % 256],
    address % 256, hnumbers, by simp, hlast, ?_, ?_⟩
  · simp only [List.mem_cons, List.not_mem_nil, or_false]
    rintro n (rfl | rfl | rfl) <;> omega
  · simp only [List.zipIdx_cons, List.zipIdx_nil, List.foldl_cons, List.foldl_nil, Nat.shiftLeft_eq,
      Nat.shiftRight_eq_div_pow]
    omega

/-- **Bytes in front** of what fills the rest of an address leave the rest its room. -/
theorem foldl_bytes_le {heads : List Nat} (hheads : ∀ n ∈ heads, n ≤ 255) (k last : Nat)
    (hlength : k + heads.length ≤ 4) :
    (heads.zipIdx k).foldl (fun address (n, i) => address + n <<< (8 * (3 - i))) last +
        2 ^ (8 * (4 - (k + heads.length))) ≤
      last + 2 ^ (8 * (4 - k)) := by
  induction heads generalizing k last with
  | nil => exact Nat.le_refl _
  | cons n heads ih =>
    obtain ⟨hn, hheads⟩ := List.forall_mem_cons.mp hheads
    rw [List.length_cons] at hlength ⊢
    have hrest := ih hheads (k + 1) (last + n <<< (8 * (3 - k))) (by omega)
    have hbyte : n <<< (8 * (3 - k)) ≤ 255 * 2 ^ (8 * (3 - k)) := by
      rw [Nat.shiftLeft_eq]
      exact Nat.mul_le_mul_right _ hn
    have hroom : 2 ^ (8 * (4 - k)) = 256 * 2 ^ (8 * (3 - k)) := by
      have hexponent : 8 * (4 - k) = 8 + 8 * (3 - k) := by omega
      rw [hexponent, Nat.pow_add]
    have hstep : 4 - (k + 1) = 3 - k := by omega
    rw [hstep, Nat.add_right_comm k 1, Nat.add_assoc k] at hrest
    rw [List.zipIdx_cons, List.foldl_cons, hroom]
    refine Nat.le_trans hrest ?_
    omega

/-- **No address** is longer than four bytes. -/
theorem lt_of_ipv4? {cs : List Char} {address : Nat} (h : ipv4? cs = some address) :
    address < 2 ^ 32 := by
  obtain ⟨heads, last, -, hthree, hlast, hheads, rfl⟩ := ipv4?_eq_some_iff.mp h
  have hle := foldl_bytes_le hheads 0 last (by omega)
  rw [Nat.zero_add] at hle
  rw [Nat.shiftLeft_eq, Nat.one_mul] at hlast
  omega

/-- The dotted form must be an IPv4 address. -/
theorem endsInNumber_ipv4Text (address : Nat) : endsInNumber (ipv4Text address).toList = true := by
  have hlast : (labels (ipv4Text address).toList).getLast? =
      some (Nat.toDigits 10 (address % 256)) := by
    rw [labels_ipv4Text]
    rfl
  have hdigits : (Nat.toDigits 10 (address % 256)).all Char.isDigit = true :=
    List.all_eq_true.mpr fun c => Nat.isDigit_of_mem_toDigits (by decide) (by decide)
  rw [endsInNumber, hlast]
  simp [hdigits]

end Outbound.Url
