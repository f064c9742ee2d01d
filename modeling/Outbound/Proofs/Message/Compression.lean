import Outbound.Proofs.Pipeline.Opening

/-!
# What compression does to a request

A request is compressed as a whole or left as it is, and compressing once more changes nothing.

* **leaving** — `Request.IsLeft` says of which requests nothing is changed, and
  `compress_eq_self_iff` that it is these and no others;
* **packing** — `Request.Packed` lists what becomes of any other request, the parts that stay
  included (`packed_compress`);
* **again** — what has been packed says that it is encoded, so that it is left (`isLeft_compress`).
-/

namespace Outbound.Request

/-- **Requests that are left**: they state an encoding, whichever it is, or they have no bytes to
compress. -/
def IsLeft (r : Request) : Prop :=
  r.headers.values .contentEncoding ≠ [] ∨ r.body = .empty ∨ r.body = .bytes [] ∨
    ∃ source, r.body = .gzip source

/-- **Packed**: the bytes of a request have become the source of a compressed body, its headers say
so and state no length any more. All else is as it was. -/
structure Packed (r q : Request) : Prop where
  method : q.method = r.method
  url : q.url = r.url
  budget : q.budget = r.budget
  cancellation : q.cancellation = r.cancellation
  encodings : q.headers.values .contentEncoding = [.ofText "gzip"]
  lengths : q.headers.values .contentLength = []
  values : ∀ name, name ≠ .contentEncoding → name ≠ .contentLength →
    q.headers.values name = r.headers.values name
  source : ∃ content, content ≠ [] ∧ r.body = .bytes content ∧ q.body = .gzip content
  contentLength : q.body.contentLength = none

variable {r : Request}

/-- **A request that is not left** has bytes, and states no encoding. -/
theorem payload_of_not_isLeft (h : ¬ r.IsLeft) :
    ∃ b bs, r.payload = ⟨.bytes (b :: bs), [], r.headers.values .contentLength⟩ := by
  simp only [IsLeft, not_or, not_exists, Classical.not_not] at h
  obtain ⟨hencodings, hempty, hnil, hgzip⟩ := h
  rcases hbody : r.body with _ | (_ | ⟨b, bs⟩) | source
  · exact absurd hbody hempty
  · exact absurd hbody hnil
  · exact ⟨b, bs, by rw [payload, hbody, hencodings]⟩
  · exact absurd hbody (hgzip source)

theorem compress_of_isLeft (h : r.IsLeft) : r.compress = r := by
  unfold compress
  split
  · rfl
  · next hencoded =>
    have hvalues := Headers.values_of_not_contains hencoded
    rcases h with h | h | h | ⟨source, h⟩
    · exact absurd hvalues h
    all_goals rw [h]

/-- **Any other request is packed.** -/
theorem packed_compress (h : ¬ r.IsLeft) : r.Packed r.compress := by
  obtain ⟨b, bs, hbefore⟩ := payload_of_not_isLeft h
  have hafter : r.compress.payload = ⟨.gzip (b :: bs), [.ofText "gzip"], []⟩ := by
    rw [payload_compress, hbefore]
    rfl
  obtain ⟨hbody, -, -⟩ := Payload.mk.inj hbefore
  obtain ⟨hbody', hencodings, hlengths⟩ := Payload.mk.inj hafter
  exact {
    method := method_compress r
    url := url_compress r
    budget := budget_compress r
    cancellation := cancellation_compress r
    encodings := hencodings
    lengths := hlengths
    values := fun _ hencoding hlength => values_compress_of_ne r hencoding hlength
    source := ⟨b :: bs, List.cons_ne_nil _ _, hbody, hbody'⟩
    contentLength := by rw [hbody']; rfl }

/-- What has been packed is left from then on. -/
theorem Packed.isLeft {q : Request} (h : r.Packed q) : q.IsLeft :=
  .inl (by rw [h.encodings]; exact List.cons_ne_nil _ _)

/-- **Nothing is changed** of the requests that are left, and of no others. -/
theorem compress_eq_self_iff : r.compress = r ↔ r.IsLeft := by
  constructor
  · intro h
    by_contra hleft
    have hpacked := packed_compress hleft
    rw [h] at hpacked
    exact hleft hpacked.isLeft
  · exact compress_of_isLeft

theorem isLeft_compress (r : Request) : r.compress.IsLeft := by
  by_cases h : r.IsLeft
  · rwa [compress_of_isLeft h]
  · exact (packed_compress h).isLeft

/-- **Left or packed.** Compressing leaves a request as it is in every part, if it states an
encoding or has no bytes to compress, and packs it otherwise; doing it twice is doing it once. -/
theorem left_or_packed (r : Request) :
    r.compress.compress = r.compress ∧
      ((r.IsLeft ∧ r.compress = r) ∨ (¬ r.IsLeft ∧ r.Packed r.compress)) := by
  refine ⟨compress_eq_self_iff.mpr r.isLeft_compress, ?_⟩
  by_cases h : r.IsLeft
  · exact .inl ⟨h, compress_eq_self_iff.mpr h⟩
  · exact .inr ⟨h, packed_compress h⟩

end Outbound.Request
