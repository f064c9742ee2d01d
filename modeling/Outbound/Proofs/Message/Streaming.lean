import Outbound.Message.Body

/-!
# Chunks of a compressed body

A body that is compressed while it is sent is handed on in the pieces that its encoder answers when
it is read. What an encoder does is told by its reads alone, however these cut the stream.

* **reads** — `ByteSource.Delivers` follows the reads up to the end of the stream; every source has
  one (`exists_delivers`), and reading it to the end is joining what it delivers
  (`Delivers.readAll_eq`);
* **calls** — `Chunks.next` is a loop over reads (`next_start`), and an iteration that is done stays
  done (`item_of_done`);
* **items** — what the calls yield one after the other is what is delivered (`item_of_delivers`);
* **the theorem** — `Body.chunks_follow_stream`, for every codec whose pieces fit the buffer; the
  codec of this library is one (`Body.delivers_gzipCodec`).
-/

namespace Outbound

/-! ## Reads -/

namespace ByteSource

/-- **What reads deliver**: the pieces that are answered one after the other until the stream is
over or fails, and the fault with which it fails, if it does. A read that is interrupted is made
again. -/
inductive Delivers : ByteSource → List (List UInt8) → Option String → Prop
  | piece {s s' bs pieces fault} (hread : read s = (.piece bs, s'))
      (rest : Delivers s' pieces fault) :
    Delivers s (bs :: pieces) fault
  | interrupted {s s' pieces fault} (hread : read s = (.interrupted, s'))
    (rest : Delivers s' pieces fault) : Delivers s pieces fault
  | finished {s s'} (hread : read s = (.finished, s')) : Delivers s [] none
  | failed {s s' fault} (hread : read s = (.failed fault, s')) : Delivers s [] (some fault)

variable {s s' : ByteSource} {bs : List UInt8} {pieces : List (List UInt8)} {fault : Option String}

/-- **Every stream ends**, with its fault if it has one. -/
theorem exists_delivers (s : ByteSource) : ∃ pieces, s.Delivers pieces s.fault := by
  obtain ⟨reads, fault⟩ := s
  induction reads with
  | nil =>
    cases fault with
    | none => exact ⟨[], .finished rfl⟩
    | some fault => exact ⟨[], .failed rfl⟩
  | cons next reads ih =>
    obtain ⟨pieces, hpieces⟩ := ih
    cases next with
    | piece bs => exact ⟨bs :: pieces, .piece rfl hpieces⟩
    | interrupted => exact ⟨pieces, .interrupted rfl hpieces⟩

/-- All bytes of a stream, or the fault with which it fails. -/
def joined (pieces : List (List UInt8)) : Option String → Except String (List UInt8)
  | none => .ok pieces.flatten
  | some fault => .error fault

/-- **Reading to the end**, one read at a time. -/
theorem readAll_eq_of_read (s : ByteSource) :
    s.readAll = match s.read with
      | (.piece bs, s') => (bs ++ ·) <$> s'.readAll
      | (.interrupted, s') => s'.readAll
      | (.finished, _) => .ok []
      | (.failed fault, _) => .error fault := by
  obtain ⟨reads, fault⟩ := s
  rcases reads with _ | ⟨_ | _, reads⟩ <;> cases fault <;> rfl

/-- **Reading to the end joins** what is delivered. -/
theorem Delivers.readAll_eq (h : s.Delivers pieces fault) : s.readAll = joined pieces fault := by
  induction h with
  | @piece s s' bs pieces fault hread rest ih =>
    rw [readAll_eq_of_read, hread]
    simp only [ih]
    cases fault <;> rfl
  | interrupted hread rest ih =>
    rw [readAll_eq_of_read, hread]
    exact ih
  | finished hread =>
    rw [readAll_eq_of_read, hread]
    rfl
  | failed hread =>
    rw [readAll_eq_of_read, hread]
    rfl

/-- What a piece or an interruption is answered from. -/
theorem eq_of_read_piece (hread : s.read = (.piece bs, s')) :
    s = ⟨.piece bs :: s'.reads, s'.fault⟩ := by
  obtain ⟨reads, fault⟩ := s
  rcases reads with _ | ⟨_ | _, reads⟩
  · cases fault <;> cases hread
  · cases hread
    rfl
  · cases hread

theorem eq_of_read_interrupted (hread : s.read = (.interrupted, s')) :
    s = ⟨.interrupted :: s'.reads, s'.fault⟩ := by
  obtain ⟨reads, fault⟩ := s
  rcases reads with _ | ⟨_ | _, reads⟩
  · cases fault <;> cases hread
  · cases hread
  · cases hread
    rfl

/-- **Of a source that obeys the contract** every piece that is delivered does. -/
theorem Delivers.obeys (h : s.Delivers pieces fault) (hobeys : s.Obeys) :
    ∀ bs ∈ pieces, bs ≠ [] ∧ bs.length ≤ chunkSize := by
  induction h with
  | piece hread rest ih =>
    obtain rfl := eq_of_read_piece hread
    refine List.forall_mem_cons.mpr ⟨hobeys _ List.mem_cons_self, ih fun bs hbs => ?_⟩
    exact hobeys bs (List.mem_cons_of_mem _ hbs)
  | interrupted hread rest ih =>
    obtain rfl := eq_of_read_interrupted hread
    exact ih fun bs hbs => hobeys bs (List.mem_cons_of_mem _ hbs)
  | finished => exact nofun
  | failed => exact nofun

/-- Known bytes are cut into pieces that obey the contract. -/
theorem obeys_cut (count : Nat) (bs : List UInt8) : Obeys ⟨cut count bs, none⟩ := by
  induction count generalizing bs with
  | zero => exact nofun
  | succ count ih =>
    cases bs with
    | nil => exact nofun
    | cons b bs =>
      intro piece hpiece
      rcases List.mem_cons.mp hpiece with hfirst | hrest
      · obtain rfl := Read.piece.inj hfirst
        exact ⟨List.cons_ne_nil _ _, List.length_take_le _ _⟩
      · exact ih _ piece hrest

/-- **Known bytes are delivered** as they are, if there are pieces enough. -/
theorem delivers_cut {count : Nat} (hcount : bs.length ≤ count) :
    ∃ pieces, Delivers ⟨cut count bs, none⟩ pieces none ∧ pieces.flatten = bs := by
  induction count generalizing bs with
  | zero =>
    obtain rfl := List.eq_nil_of_length_eq_zero (Nat.le_zero.mp hcount)
    exact ⟨[], .finished rfl, rfl⟩
  | succ count ih =>
    cases bs with
    | nil => exact ⟨[], .finished rfl, rfl⟩
    | cons b bs =>
      have hrest : ((b :: bs).drop chunkSize).length ≤ count := by
        rw [List.length_drop, chunkSize]
        omega
      obtain ⟨pieces, hpieces, hflatten⟩ := ih hrest
      refine ⟨(b :: bs).take chunkSize :: pieces, .piece rfl hpieces, ?_⟩
      rw [List.flatten_cons, hflatten, List.take_append_drop]

end ByteSource

/-! ## Calls -/

namespace Chunks

open ByteSource (Delivers)

variable {s : ByteSource} {c c' : Chunks} {pieces : List (List UInt8)} {fault : Option String}

/-- The iteration behind a number of calls. -/
def after : Nat → Chunks → Chunks
  | 0, c => c
  | calls + 1, c => after calls c.next.2

/-- **What a call yields**, of all calls to come, counted from zero. -/
def item (c : Chunks) (call : Nat) : Option (Except String (List UInt8)) := (c.after call).next.1

theorem after_add (used call : Nat) (c : Chunks) :
    c.after (used + call) = (c.after used).after call := by
  induction used generalizing c with
  | zero => rw [Nat.zero_add, after]
  | succ used ih => rw [Nat.succ_add, after, ih, after]

/-- Behind some calls the items go on where these ended. -/
theorem item_after (used call : Nat) (c : Chunks) :
    (c.after used).item call = c.item (used + call) := by
  rw [item, ← after_add, item]

theorem item_succ (call : Nat) (c : Chunks) : c.item (call + 1) = c.next.2.item call := rfl

/-- **A call reads** until something other than an interruption is answered. -/
theorem next_start (s : ByteSource) :
    (start s).next = match s.read with
      | (.piece bs, s') => (some (.ok bs), start s')
      | (.interrupted, s') => (start s').next
      | (.finished, s') => (none, ⟨s', true⟩)
      | (.failed fault, s') => (some (.error fault), ⟨s', true⟩) := by
  obtain ⟨reads, fault⟩ := s
  rcases reads with _ | ⟨_ | _, reads⟩ <;> cases fault <;> rfl

/-- **An iteration that is done** yields nothing any more. -/
theorem item_of_done (hdone : c.done = true) (call : Nat) : c.item call = none := by
  have hnext : c.next = (none, c) := if_pos hdone
  induction call with
  | zero => rw [item, after, hnext]
  | succ call ih => rw [item_succ, hnext, ih]

theorem item_congr (h : c.next = c'.next) (call : Nat) : c.item call = c'.item call := by
  cases call with
  | zero => rw [item, after, h, item, after]
  | succ call => rw [item_succ, h, item_succ]

/-- **A call that yields** comes before what the calls behind it yield. -/
theorem item_of_yield {x : Except String (List UInt8)} {xs : List (Except String (List UInt8))}
    (hnext : c.next = (some x, c')) (hrest : ∀ call, c'.item call = xs[call]?) (call : Nat) :
    c.item call = (x :: xs)[call]? := by
  cases call with
  | zero => rw [item, after, hnext, List.getElem?_cons_zero]
  | succ call => rw [item_succ, hnext, hrest, List.getElem?_cons_succ]

/-- **A call that ends the iteration** yields nothing, like all calls behind it. -/
theorem item_of_end (hnext : c.next = (none, c')) (hdone : c'.done = true) (call : Nat) :
    c.item call = none := by
  cases call with
  | zero => rw [item, after, hnext]
  | succ call => rw [item_succ, hnext, item_of_done hdone]

/-! ## Items -/

/-- **The items of a stream**: its pieces, and then the fault, if there is one. -/
def items (pieces : List (List UInt8)) (fault : Option String) :
    List (Except String (List UInt8)) :=
  pieces.map .ok ++ (fault.map .error).toList

/-- **Calls yield what is delivered**, and nothing behind it. -/
theorem item_of_delivers (h : s.Delivers pieces fault) (call : Nat) :
    (start s).item call = (items pieces fault)[call]? := by
  induction h generalizing call with
  | @piece s s' bs pieces fault hread rest ih =>
    have hnext : (start s).next = (some (.ok bs), start s') := by rw [next_start, hread]
    exact item_of_yield hnext ih call
  | interrupted hread rest ih =>
    rw [← ih call]
    apply item_congr
    rw [next_start, hread]
  | @finished s s' hread =>
    have hnext : (start s).next = (none, ⟨s', true⟩) := by rw [next_start, hread]
    exact item_of_end hnext rfl call
  | @failed s s' fault hread =>
    have hnext : (start s).next = (some (.error fault), ⟨s', true⟩) := by rw [next_start, hread]
    exact item_of_yield hnext (fun call => item_of_done rfl call) call

/-- **Calling until nothing is yielded** collects the items. -/
theorem drain_of_item {xs : List (Except String (List UInt8))} (h : ∀ call, c.item call = xs[call]?)
    (count : Nat) : (drain count c).1 = xs.take count := by
  induction count generalizing c xs with
  | zero => rw [drain, List.take_zero]
  | succ count ih =>
    have hfirst : c.next.1 = xs[0]? := h 0
    cases xs with
    | nil =>
      have hnext : c.next = (none, c.next.2) := Prod.ext hfirst rfl
      rw [drain, hnext, List.take_nil]
    | cons x xs =>
      have hnext : c.next = (some x, c.next.2) := Prod.ext hfirst rfl
      have hrest : (drain count c.next.2).1 = xs.take count := ih fun call => h (call + 1)
      rw [drain, hnext, List.take_succ_cons, ← hrest]

end Chunks

/-! ## Bodies -/

namespace Body

variable {codec : Codec} {source : List UInt8}

/-- **Chunks follow the stream.** The reads of a codec that obeys its contract come to an end. The
calls of an iteration over the chunks yield the pieces that they deliver, each with a byte at least
and no larger than the buffer, then the fault if there is one, and then nothing, whenever one looks;
another iteration, however far the first has got, begins with the first of them again. Interruptions
are seen nowhere. The bytes of the same body on the wire are those of the chunks in one, or the
fault, even if the codec cuts its stream otherwise for them. -/
theorem chunks_follow_stream (hobeys : (codec source).Obeys) :
    (∃ pieces, (codec source).Delivers pieces (codec source).fault) ∧
      ∀ pieces fault, (codec source).Delivers pieces fault →
        (∀ piece ∈ pieces, piece ≠ [] ∧ piece.length ≤ 8192) ∧
        (∀ call, (chunks codec source).item call = (Chunks.items pieces fault)[call]?) ∧
        (∀ count, ((chunks codec source).drain count).1 = (Chunks.items pieces fault).take count) ∧
        (∀ used call, ((chunks codec source).after used).item call =
          (Chunks.items pieces fault)[used + call]?) ∧
        ∀ (codec' : Codec) pieces', (codec' source).Delivers pieces' fault →
          pieces'.flatten = pieces.flatten →
          (gzip source).toBytes codec' = ByteSource.joined pieces fault := by
  refine ⟨(codec source).exists_delivers, fun pieces fault hdelivers => ?_⟩
  have hitem (call : Nat) : (chunks codec source).item call = (Chunks.items pieces fault)[call]? :=
    Chunks.item_of_delivers hdelivers call
  refine ⟨hdelivers.obeys hobeys, hitem, Chunks.drain_of_item hitem, fun used call => ?_,
    fun codec' pieces' hdelivers' hsame => ?_⟩
  · rw [Chunks.item_after, hitem]
  · rw [toBytes, hdelivers'.readAll_eq]
    cases fault with
    | none => rw [ByteSource.joined, ByteSource.joined, hsame]
    | some fault => rfl

/-- **A codec that stumbles**: it is interrupted before each of its pieces and breaks off behind the
second. -/
def stumblingCodec : Codec := fun source =>
  ⟨[.interrupted, .piece [0x1F, 0x8B], .interrupted, .interrupted, .piece (8 :: source)],
    some "broken off"⟩

/-- **Two pieces and a fault** are the items of a codec that stumbles, and then there is nothing; a
second iteration begins with the first piece again. On the wire there are no bytes of it. -/
theorem chunks_follow_stream_stumbling :
    (stumblingCodec [1]).Obeys ∧
      ((chunks stumblingCodec [1]).drain 9).1 = [.ok [0x1F, 0x8B], .ok [8, 1],
        .error "broken off"] ∧
      (∀ call, ((chunks stumblingCodec [1]).after 3).item call = none) ∧
      (chunks stumblingCodec [1]).item 0 = some (.ok [0x1F, 0x8B]) ∧
      (gzip [1]).toBytes stumblingCodec = .error "broken off" := by
  have hobeys : (stumblingCodec [1]).Obeys := by
    intro bs hbs
    have hpiece : bs = [0x1F, 0x8B] ∨ bs = [8, 1] := by simpa [stumblingCodec] using hbs
    rcases hpiece with rfl | rfl <;> decide
  have hdelivers : (stumblingCodec [1]).Delivers [[0x1F, 0x8B], [8, 1]] (some "broken off") :=
    .interrupted rfl (.piece rfl (.interrupted rfl (.interrupted rfl (.piece rfl (.failed rfl)))))
  obtain ⟨-, hfollow⟩ := chunks_follow_stream hobeys
  obtain ⟨-, hitem, hdrain, hafter, hwire⟩ := hfollow _ _ hdelivers
  refine ⟨hobeys, hdrain 9, fun call => ?_, hitem 0, hwire _ _ hdelivers rfl⟩
  rw [hafter, List.getElem?_eq_none (Nat.le_add_right 3 call)]

/-- **The codec of this library** obeys the contract and delivers the gzip member of the source. -/
theorem delivers_gzipCodec (source : List UInt8) :
    (gzipCodec source).Obeys ∧
      ∃ pieces, (gzipCodec source).Delivers pieces none ∧
        pieces.flatten = Encoding.Gzip.encode source :=
  ⟨ByteSource.obeys_cut _ _, ByteSource.delivers_cut (Nat.le_refl _)⟩

end Body

end Outbound
