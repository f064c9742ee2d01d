import Outbound.Proofs.Text.Parting
import Outbound.Proofs.Url.Percent
import Outbound.Url.Parser

/-!
# Paths and their texts

The text of a path that was read is read as this path, if no segment of it is a dot segment and none
is taken for a drive.

* **segments** — a segment is clean and has no slash in it (`IsSegment`), as the text between two
  slashes is once it is encoded (`isSegment_encodeSegment`);
* **reading** — whatever holds of each segment that may be read holds of a whole trail
  (`Trail.forall_mem_readAll`), so that what is read are segments, and no dots but in a file path
  (`of_mem_segmentsOf`, `isSegment_of_mem_readPath`);
* **reading back** — segments that are no dots are read one by one (`Trail.readAll_segments`), and
  so is a path of them (`segmentsOf_joined`, `readPath_joined`, `readPath_slash_joined`).
-/

namespace Outbound.Url

open Outbound.Text

/-! ## Characters -/

theorem inControls_of_isBreak {c : Char} (h : isBreak c = true) : inControls c = true := by
  simp only [isBreak, Bool.or_eq_true, beq_iff_eq] at h
  rcases h with (rfl | rfl) | rfl <;> decide

theorem withoutBreaks_of_clean {cs : List Char} (h : Clean inControls cs) :
    withoutBreaks cs = cs := by
  refine List.filter_eq_self.mpr fun c hc => ?_
  rw [Bool.not_eq_true', ← Bool.not_eq_true]
  exact fun hbreak => h.not_mem (inControls_of_isBreak hbreak) hc

/-- **Characters in ASCII** have what all of them have. -/
theorem forall_of_lt {p : Char → Prop} (hp : ∀ n < 0x80, p (Char.ofNat n)) {c : Char}
    (hc : c.toNat < 0x80) : p c := by
  have h := hp c.toNat hc
  rwa [Char.ofNat_toNat] at h

theorem lt_of_isAlphanum {c : Char} (h : c.isAlphanum = true) : c.toNat < 0x80 := by
  have hbound : ∀ last : Char, last.toNat < 0x80 → c.val ≤ last.val → c.toNat < 0x80 :=
    fun last hlast hle => Nat.lt_of_le_of_lt (UInt32.le_iff_toNat_le.mp hle) hlast
  rcases (Bool.or_eq_true _ _).mp h with halpha | hdigit
  · rcases (Bool.or_eq_true _ _).mp halpha with hupper | hlower
    · exact hbound 'Z' (by decide) (of_decide_eq_true hupper).2
    · exact hbound 'z' (by decide) (of_decide_eq_true ((Bool.and_eq_true _ _).mp hlower).2)
  · exact hbound '9' (by decide) (of_decide_eq_true ((Bool.and_eq_true _ _).mp hdigit).2)

theorem lt_of_isAlpha {c : Char} (h : c.isAlpha = true) : c.toNat < 0x80 :=
  lt_of_isAlphanum (by rw [Char.isAlphanum, h, Bool.true_or])

theorem isSlash_slash (special : Bool) : isSlash special '/' = true := rfl

/-! ## Segments -/

/-- **Segments** are encoded, and have no slash in them. -/
structure IsSegment (special : Bool) (s : String) : Prop where
  clean : Clean inPath s.toList
  slash : ∀ c ∈ s.toList, isSlash special c = false

/-- Segments that stand for places. -/
def isDots (s : String) : Bool := isSingleDot s || isDoubleDot s

theorem isSegment_empty (special : Bool) : IsSegment special "" := ⟨by simp, by simp⟩

/-- **What stands between slashes** has none. -/
theorem not_isSlash_of_mem_pieces {special : Bool} {cs piece : List Char}
    (h : piece ∈ pieces special cs) :
    ∀ c ∈ piece, isSlash special c = false := by
  intro c hc
  obtain ⟨d, -, hd⟩ := List.mem_map.mp (subset_of_mem_splitOn h hc)
  have hslash : c ≠ '/' := ne_of_mem_of_not_mem hc (not_mem_of_mem_splitOn h)
  split at hd
  case isTrue => exact absurd hd.symm hslash
  case isFalse hkept =>
    obtain rfl := hd
    exact Bool.eq_false_iff.mpr hkept

theorem isSegment_encodeSegment {special : Bool} {piece : List Char}
    (h : ∀ c ∈ piece, isSlash special c = false) : IsSegment special (encodeSegment piece) := by
  have hescapes : ∀ c ∈ escapes, isSlash special c = false := by
    cases special <;> decide
  constructor
  · rw [encodeSegment, String.toList_ofList]
    exact clean_percentEncode encoding_inPath
  · rw [encodeSegment, String.toList_ofList]
    exact forall_mem_percentEncode hescapes fun c hc _ _ => h c (List.mem_of_mem_filter hc)

/-- **A drive** is a segment. -/
theorem isSegment_drive {special : Bool} {c : Char} (h : c.isAlpha = true) :
    IsSegment special (String.ofList [c, ':']) := by
  have hall : ∀ n < 0x80, (Char.ofNat n).isAlpha = true →
      inPath (Char.ofNat n) = false ∧ ∀ special, isSlash special (Char.ofNat n) = false := by decide
  obtain ⟨hpath, hslash⟩ := forall_of_lt (p := fun c => c.isAlpha = true →
    inPath c = false ∧ ∀ special, isSlash special c = false) hall (lt_of_isAlpha h) h
  constructor
  · rw [String.toList_ofList]
    exact clean_cons.mpr ⟨⟨lt_of_isAlpha h, hpath⟩, by decide⟩
  · rw [String.toList_ofList]
    refine List.forall_mem_cons.mpr ⟨hslash special, List.forall_mem_singleton.mpr ?_⟩
    cases special <;> decide

theorem encodeSegment_toList {special : Bool} {s : String} (h : IsSegment special s) :
    encodeSegment s.toList = s := by
  rw [encodeSegment, withoutBreaks_of_clean (h.clean.controls encoding_inPath),
    percentEncode_of_clean h.clean, String.ofList_toList]

/-! ## Reading -/

section Reading

variable {p : String → Prop} {file last : Bool} {t : Trail} {piece : List Char}

theorem goUp_subset (done : List String) : goUp done ⊆ done := by
  cases done with
  | nil => exact List.Subset.refl _
  | cons segment before =>
    rw [goUp]
    split
    · exact List.Subset.refl _
    · exact List.subset_cons_self _ _

/-- **One segment.** -/
theorem Trail.forall_mem_read (hempty : p "")
    (hpiece : isDots (encodeSegment piece) = false → p (encodeSegment piece))
    (hfront : file = true → ∀ s ∈ (Trail.front piece).done, p s) (h : ∀ s ∈ t.done, p s) :
    ∀ s ∈ (t.read file last piece).done, p s := by
  have hclose : ∀ done : List String, (∀ s ∈ done, p s) →
      ∀ s ∈ if last = true then "" :: done else done, p s := by
    intro done hdone
    split
    · exact List.forall_mem_cons.mpr ⟨hempty, hdone⟩
    · exact hdone
  rw [Trail.read]
  dsimp only
  split
  case isTrue => exact hclose _ fun s hs => h s (goUp_subset _ hs)
  case isFalse hdouble =>
    split
    case isTrue => exact hclose _ h
    case isFalse hsingle =>
      split
      case isTrue hfile => exact hfront (Bool.and_eq_true_iff.mp hfile).1
      case isFalse =>
        refine List.forall_mem_cons.mpr ⟨hpiece ?_, h⟩
        rw [isDots, Bool.eq_false_iff.mpr hsingle, Bool.eq_false_iff.mpr hdouble]
        rfl

/-- **All segments.** -/
theorem Trail.forall_mem_readAll {pieces : List (List Char)} (hempty : p "")
    (hpieces : ∀ piece ∈ pieces, isDots (encodeSegment piece) = false → p (encodeSegment piece))
    (hfront : file = true → ∀ piece ∈ pieces, ∀ s ∈ (Trail.front piece).done, p s)
    (h : ∀ s ∈ t.done, p s) : ∀ s ∈ (t.readAll file pieces).done, p s := by
  induction pieces generalizing t with
  | nil => exact h
  | cons piece rest ih =>
    obtain ⟨hpiece, hrest⟩ := List.forall_mem_cons.mp hpieces
    refine ih hrest (fun hfile piece hmem => hfront hfile piece (List.mem_cons_of_mem _ hmem)) ?_
    exact Trail.forall_mem_read hempty hpiece (fun hfile => hfront hfile piece List.mem_cons_self) h

theorem Trail.front_ne_nil (piece : List Char) : (Trail.front piece).done ≠ [] := by
  rw [Trail.front]
  split <;> simp

/-- The last segment leaves one behind. -/
theorem Trail.read_last_ne_nil : (t.read file true piece).done ≠ [] := by
  rw [Trail.read]
  dsimp only
  split
  · simp
  · split
    · simp
    · split
      · exact Trail.front_ne_nil piece
      · simp

theorem Trail.readAll_ne_nil {pieces : List (List Char)} (hne : pieces ≠ []) :
    (t.readAll file pieces).done ≠ [] := by
  induction pieces generalizing t with
  | nil => exact absurd rfl hne
  | cons piece rest ih =>
    cases rest with
    | nil => exact Trail.read_last_ne_nil
    | cons next rest => exact ih (List.cons_ne_nil _ _)

end Reading

theorem pieces_ne_nil (special : Bool) (cs : List Char) : pieces special cs ≠ [] :=
  List.splitOn_ne_nil _ _

/-- **A path that is not a file's** has at least one segment, and no dots. -/
theorem segmentsOf_ne_nil (special : Bool) (cs : List Char) : segmentsOf special cs ≠ [] := by
  have hne : (Trail.readAll false ⟨[], false⟩ (pieces special cs)).done ≠ [] :=
    Trail.readAll_ne_nil (pieces_ne_nil special cs)
  simpa [segmentsOf, readPath] using hne

theorem of_mem_segmentsOf {special : Bool} {cs : List Char} {s : String}
    (h : s ∈ segmentsOf special cs) :
    IsSegment special s ∧ isDots s = false := by
  have hall : ∀ s ∈ (Trail.readAll false ⟨[], false⟩ (pieces special cs)).done,
      IsSegment special s ∧ isDots s = false := Trail.forall_mem_readAll
    ⟨isSegment_empty special, by decide +kernel⟩
    (fun piece hpiece hdots => ⟨isSegment_encodeSegment (not_isSlash_of_mem_pieces hpiece), hdots⟩)
    (fun hfile => absurd hfile Bool.false_ne_true) (by simp)
  exact hall s (by simpa [segmentsOf, readPath] using h)

/-! ## File paths -/

theorem isAlpha_of_drive? {cs : List Char} {c : Char} (h : drive? cs = some c) :
    c.isAlpha = true := by
  unfold drive? at h
  split at h
  case h_1 =>
    obtain ⟨hdrive, h⟩ := Option.ite_none_right_eq_some.mp h
    obtain rfl := Option.some.inj h
    exact (Bool.and_eq_true_iff.mp hdrive).1
  case h_2 => cases h

/-- **A drive that is broken off** is a letter, and what follows it is part of the text. -/
theorem of_brokenDrive? {piece rest : List Char} {c : Char}
    (h : brokenDrive? piece = some (c, rest)) :
    c.isAlpha = true ∧ rest ⊆ piece := by
  rw [brokenDrive?] at h
  split at h
  case h_1 d tail htail =>
    split at h
    case h_1 mark after hafter =>
      obtain ⟨hdrive, h⟩ := Option.ite_none_right_eq_some.mp h
      obtain ⟨rfl, rfl⟩ := Prod.mk.inj (Option.some.inj h)
      simp only [Bool.and_eq_true] at hdrive
      refine ⟨hdrive.1.1, fun x hx => ?_⟩
      have hmem : x ∈ tail.dropWhile isBreak := by
        rw [hafter]
        exact List.mem_cons_of_mem _ (List.mem_cons_of_mem _ (List.mem_of_mem_filter hx))
      have hpiece : x ∈ piece.dropWhile isBreak := by
        rw [htail]
        exact List.mem_cons_of_mem _ ((List.dropWhile_suffix _).subset hmem)
      exact (List.dropWhile_suffix _).subset hpiece
    case h_2 => cases h
  case h_2 => cases h

/-- **The front of a file path** consists of segments. -/
theorem isSegment_of_mem_front {special : Bool} {piece : List Char}
    (h : ∀ c ∈ piece, isSlash special c = false) :
    ∀ s ∈ (Trail.front piece).done, IsSegment special s := by
  rw [Trail.front]
  split
  case h_1 _ _ c rest hbroken =>
    obtain ⟨halpha, hsub⟩ := of_brokenDrive? hbroken
    refine List.forall_mem_cons.mpr ⟨isSegment_encodeSegment fun d hd => h d (hsub hd), ?_⟩
    exact List.forall_mem_singleton.mpr (isSegment_drive halpha)
  case h_2 _ _ c _ hdrive =>
    exact List.forall_mem_singleton.mpr (isSegment_drive (isAlpha_of_drive? hdrive))
  case h_3 => exact List.forall_mem_singleton.mpr (isSegment_encodeSegment h)

/-- What file paths look like: no empty segment is at the front, unless it is the only one. -/
def IsTop (segs : List String) : Prop :=
  segs = [""] ∨ ∃ first rest, segs = first :: rest ∧ first ≠ ""

/-- The segments of a file path without those at the front that are empty. -/
def atTop (segs : List String) : List String :=
  match segs.dropWhile (·.isEmpty) with
  | [] => [""]
  | kept => kept

theorem atTop_empty_cons (segs : List String) : atTop ("" :: segs) = atTop segs := rfl

theorem atTop_of_isTop {segs : List String} (h : IsTop segs) : atTop segs = segs := by
  rcases h with rfl | ⟨first, rest, rfl, hne⟩
  · rfl
  · have hfirst : ¬ first.isEmpty = true := by simpa using hne
    rw [atTop, List.dropWhile_cons_of_neg hfirst]

theorem isTop_atTop (segs : List String) : IsTop (atTop segs) := by
  have hnot := List.head?_dropWhile_not (·.isEmpty) segs
  rw [atTop]
  generalize segs.dropWhile (·.isEmpty) = kept at hnot ⊢
  rcases kept with _ | ⟨first, rest⟩
  · exact .inl rfl
  · exact .inr ⟨first, rest, rfl, by simpa using hnot⟩

theorem mem_of_mem_atTop {segs : List String} {s : String} (h : s ∈ atTop segs) :
    s = "" ∨ s ∈ segs := by
  rw [atTop] at h
  split at h
  case h_1 => exact .inl (List.mem_singleton.mp h)
  case h_2 => exact .inr ((List.dropWhile_suffix _).subset h)

theorem readPath_file (special : Bool) (cs : List Char) :
    readPath special true cs =
      let t := Trail.readAll true ⟨[], false⟩ (pieces special cs)
      (atTop t.done.reverse, t.onDrive) := by
  rw [readPath, if_pos rfl]
  dsimp only
  rw [atTop]
  rcases List.dropWhile _ _ with _ | ⟨first, rest⟩ <;> rfl

theorem isTop_readPath (special : Bool) (cs : List Char) : IsTop (readPath special true cs).1 := by
  rw [readPath_file]
  exact isTop_atTop _

/-- **A file path** consists of segments. -/
theorem isSegment_of_mem_readPath {special : Bool} {cs : List Char} {s : String}
    (h : s ∈ (readPath special true cs).1) : IsSegment special s := by
  have hall : ∀ s ∈ (Trail.readAll true ⟨[], false⟩ (pieces special cs)).done,
      IsSegment special s :=
    Trail.forall_mem_readAll (isSegment_empty special)
    (fun piece hpiece _ => isSegment_encodeSegment (not_isSlash_of_mem_pieces hpiece))
    (fun _ piece hpiece => isSegment_of_mem_front (not_isSlash_of_mem_pieces hpiece)) (by simp)
  rw [readPath_file] at h
  rcases mem_of_mem_atTop h with rfl | hmem
  · exact isSegment_empty special
  · exact hall s (List.mem_reverse.mp hmem)

/-! ## Reading back -/

/-- The text of a path behind its first slash. -/
def joined (segs : List String) : List Char := ['/'].intercalate (segs.map String.toList)

section Back

variable {special : Bool} {segs : List String}

theorem toList_text_segments (hne : segs ≠ []) :
    (Path.segments segs).text.toList = '/' :: joined segs := by
  rw [Path.text, String.toList_join]
  induction segs with
  | nil => exact absurd rfl hne
  | cons s segs ih =>
    rw [List.map_cons, List.flatMap_cons, String.toList_append, joined, List.map_cons]
    cases segs with
    | nil => simp
    | cons s' segs =>
      rw [ih (List.cons_ne_nil _ _), joined, List.map_cons, List.intercalate_cons_cons]
      simp

/-- **The segments** of a text are found at its slashes. -/
theorem pieces_joined (hne : segs ≠ []) (h : ∀ s ∈ segs, IsSegment special s) :
    pieces special (joined segs) = segs.map String.toList := by
  have hkept : ∀ c ∈ joined segs, (if isSlash special c then '/' else c) = c := by
    refine forall_mem_intercalate rfl fun part hpart c hc => ?_
    obtain ⟨s, hs, rfl⟩ := List.mem_map.mp hpart
    rw [(h s hs).slash c hc]
    rfl
  have hslash : ∀ part ∈ segs.map String.toList, '/' ∉ part := by
    intro part hpart hmem
    obtain ⟨s, hs, rfl⟩ := List.mem_map.mp hpart
    exact absurd (isSlash_slash special) (Bool.eq_false_iff.mp ((h s hs).slash '/' hmem))
  rw [pieces, (List.map_congr_left hkept).trans (List.map_id' _)]
  exact List.splitOn_intercalate '/' hslash (by simpa using hne)

/-- **One segment** that is no dot is added to those that have been read. -/
theorem Trail.read_segment {file last : Bool} {t : Trail} {s : String}
    (hsegment : IsSegment special s)
    (hdots : isDots s = false) (hfront : file = true → t.done ≠ []) :
    t.read file last s.toList = { t with done := s :: t.done } := by
  have hnone : ¬ (file && t.done.isEmpty) = true := by
    rw [Bool.and_eq_true, List.isEmpty_iff]
    exact fun hfile => hfront hfile.1 hfile.2
  rw [isDots, Bool.or_eq_false_iff] at hdots
  rw [Trail.read, encodeSegment_toList hsegment]
  dsimp only
  rw [hdots.1, hdots.2, if_neg Bool.false_ne_true, if_neg Bool.false_ne_true, if_neg hnone]

/-- **Segments** that are no dots are read one by one. -/
theorem Trail.readAll_segments {file : Bool} {t : Trail}
    (h : ∀ s ∈ segs, IsSegment special s ∧ isDots s = false) (hfront : file = true → t.done ≠ []) :
    t.readAll file (segs.map String.toList) = { t with done := segs.reverse ++ t.done } := by
  induction segs generalizing t with
  | nil => rfl
  | cons s segs ih =>
    obtain ⟨⟨hsegment, hdots⟩, hsegs⟩ := List.forall_mem_cons.mp h
    rw [List.map_cons, Trail.readAll, Trail.read_segment hsegment hdots hfront,
      ih hsegs fun _ => List.cons_ne_nil _ _]
    simp

/-- **A path** that is not a file's is read back. -/
theorem segmentsOf_joined (hne : segs ≠ [])
    (h : ∀ s ∈ segs, IsSegment special s ∧ isDots s = false) :
    segmentsOf special (joined segs) = segs := by
  rw [segmentsOf, readPath, pieces_joined hne fun s hs => (h s hs).1,
    Trail.readAll_segments h fun hfile => absurd hfile Bool.false_ne_true]
  simp

theorem joined_cons (s : String) (hne : segs ≠ []) :
    joined (s :: segs) = s.toList ++ '/' :: joined segs := by
  rw [joined, List.map_cons, List.intercalate_cons_of_ne_nil (by simpa using hne)]
  simp [joined]

theorem isSegment_dot (special : Bool) : IsSegment special "." := by
  cases special <;> exact ⟨by decide +kernel, by decide +kernel⟩

/-- A dot in front of others is passed over. -/
theorem Trail.read_dot (t : Trail) : t.read false false ".".toList = t := by
  have hencode : encodeSegment ".".toList = "." := encodeSegment_toList (isSegment_dot true)
  have hdouble : isDoubleDot "." = false := by decide +kernel
  have hsingle : isSingleDot "." = true := by decide +kernel
  rw [Trail.read, hencode]
  dsimp only
  rw [hdouble, if_neg Bool.false_ne_true, hsingle, if_pos rfl]
  rfl

/-- A path that is set off by a dot is read back, too. -/
theorem segmentsOf_dot_joined (hne : segs ≠ [])
    (h : ∀ s ∈ segs, IsSegment special s ∧ isDots s = false) :
    segmentsOf special ('.' :: '/' :: joined segs) = segs := by
  have htext : '.' :: '/' :: joined segs = joined ("." :: segs) := by
    rw [joined_cons "." hne]
    rfl
  have hlast : (segs.map String.toList).isEmpty = false := by simpa using hne
  rw [segmentsOf, readPath, htext, pieces_joined (List.cons_ne_nil _ _)
    (List.forall_mem_cons.mpr ⟨isSegment_dot special, fun s hs => (h s hs).1⟩), List.map_cons,
    Trail.readAll, hlast, Trail.read_dot,
    Trail.readAll_segments h fun hfile => absurd hfile Bool.false_ne_true]
  simp

theorem brokenDrive?_of_clean {cs : List Char} (h : Clean inControls cs) :
    brokenDrive? cs = none := by
  rw [brokenDrive?]
  split
  case h_1 c tail htail =>
    split
    case h_1 mark rest hrest =>
      have hmem : mark ∈ cs := by
        have htail' : mark ∈ tail.dropWhile isBreak := by rw [hrest]; simp
        have hcs : mark ∈ cs.dropWhile isBreak := by
          rw [htail]
          exact List.mem_cons_of_mem _ ((List.dropWhile_suffix _).subset htail')
        exact (List.dropWhile_suffix _).subset hcs
      refine if_neg fun hdrive => ?_
      simp only [Bool.and_eq_true] at hdrive
      exact h.not_mem (inControls_of_isBreak hdrive.1.2) hmem
    case h_2 => rfl
  case h_2 => rfl

/-- **A segment at the front** of a file path that is no drive. -/
theorem Trail.front_segment {s : String} (hsegment : IsSegment special s)
    (hdrive : drive? s.toList = none) :
    Trail.front s.toList = ⟨[s], false⟩ := by
  have hcontrols := hsegment.clean.controls encoding_inPath
  rw [Trail.front, brokenDrive?_of_clean hcontrols, withoutBreaks_of_clean hcontrols, hdrive,
    encodeSegment_toList hsegment]

/-- **Behind the front** the other segments of a file path are read one by one. -/
theorem readPath_of_pieces {cs : List Char} {first : String} {rest : List String}
    (hpieces : pieces special cs = (first :: rest).map String.toList)
    (hfirst : IsSegment special first ∧ isDots first = false) (hdrive : drive? first.toList = none)
    (h : ∀ s ∈ rest, IsSegment special s ∧ isDots s = false) :
    readPath special true cs = (atTop (first :: rest), false) := by
  obtain ⟨hsegment, hdots⟩ := hfirst
  have hread : Trail.read true (rest.map String.toList).isEmpty ⟨[], false⟩ first.toList =
      ⟨[first], false⟩ := by
    rw [isDots, Bool.or_eq_false_iff] at hdots
    rw [Trail.read, encodeSegment_toList hsegment]
    dsimp only
    rw [hdots.1, hdots.2, if_neg Bool.false_ne_true, if_neg Bool.false_ne_true, List.isEmpty_nil,
      Bool.and_true, if_pos rfl, Trail.front_segment hsegment hdrive]
  rw [readPath_file, hpieces, List.map_cons, Trail.readAll, hread,
    Trail.readAll_segments h fun _ => List.cons_ne_nil _ _]
  simp

/-- **A file path** is read back, if it does not begin with a drive. -/
theorem readPath_joined (htop : IsTop segs) (h : ∀ s ∈ segs, IsSegment special s ∧ isDots s = false)
    (hdrive : ∀ first ∈ segs.head?, drive? first.toList = none) :
    readPath special true (joined segs) = (segs, false) := by
  have hne : segs ≠ [] := by
    rcases htop with rfl | ⟨first, rest, rfl, -⟩ <;> exact List.cons_ne_nil _ _
  have hpieces := pieces_joined hne fun s hs => (h s hs).1
  obtain ⟨first, rest, rfl⟩ := List.exists_cons_of_ne_nil hne
  obtain ⟨hfirst, hrest⟩ := List.forall_mem_cons.mp h
  rw [readPath_of_pieces hpieces hfirst (hdrive first rfl) hrest, atTop_of_isTop htop]

/-- Behind a slash a file path may begin with a drive. -/
theorem readPath_slash_joined (htop : IsTop segs)
    (h : ∀ s ∈ segs, IsSegment special s ∧ isDots s = false) :
    readPath special true ('/' :: joined segs) = (segs, false) := by
  have hne : segs ≠ [] := by
    rcases htop with rfl | ⟨first, rest, rfl, -⟩ <;> exact List.cons_ne_nil _ _
  have hempty : IsSegment special "" ∧ isDots "" = false :=
    ⟨isSegment_empty special, by decide +kernel⟩
  have htext : '/' :: joined segs = joined ("" :: segs) := by
    rw [joined_cons "" hne]
    rfl
  have hpieces : pieces special (joined ("" :: segs)) = ("" :: segs).map String.toList :=
    pieces_joined (List.cons_ne_nil _ _) (List.forall_mem_cons.mpr ⟨hempty.1,
      fun s hs => (h s hs).1⟩)
  rw [htext, readPath_of_pieces hpieces hempty rfl h, atTop_empty_cons, atTop_of_isTop htop]

end Back

/-! ## Replacing -/

/-- Segments that can stand where others stand: they begin as these do, or with one that can stand
in front of every path. -/
def CanReplace (segs' segs : List String) : Prop :=
  (∃ first rest', segs' = first :: rest' ∧ first ≠ "" ∧ drive? first.toList = none) ∨
    ∃ first rest rest', segs = first :: rest ∧ segs' = first :: rest' ∧ (first = "" → rest ≠ [])

section Replacing

variable {segs segs' : List String}

theorem CanReplace.ne_nil (h : CanReplace segs' segs) : segs' ≠ [] := by
  rcases h with ⟨_, _, rfl, -⟩ | ⟨_, _, _, -, rfl, -⟩ <;> exact List.cons_ne_nil _ _

/-- **No empty segment** comes to the front of a file path. -/
theorem CanReplace.isTop (h : CanReplace segs' segs) (htop : IsTop segs) : IsTop segs' := by
  rcases h with ⟨first, rest', rfl, hne, -⟩ | ⟨first, rest, rest', rfl, rfl, hempty⟩
  · exact .inr ⟨first, rest', rfl, hne⟩
  · refine .inr ⟨first, rest', rfl, ?_⟩
    rintro rfl
    rcases htop with hnil | ⟨_, _, hcons, hne⟩
    · exact hempty rfl (List.cons.inj hnil).2
    · exact hne (List.cons.inj hcons).1.symm

/-- **No drive** comes to the front. -/
theorem CanReplace.drive?_eq_none (h : CanReplace segs' segs)
    (hdrive : ∀ first ∈ segs.head?, drive? first.toList = none) :
    ∀ first ∈ segs'.head?, drive? first.toList = none := by
  rcases h with ⟨first, rest', rfl, -, hfirst⟩ | ⟨first, rest, rest', rfl, rfl, -⟩
  · rintro _ ⟨⟩
    exact hfirst
  · exact hdrive

end Replacing

end Outbound.Url
