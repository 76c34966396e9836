import Miniduo.Buffer
import Miniduo.Lib.Refinement

/-!
# `Buffer` as a byte queue

The abstract component is a queue of bytes (`ByteQueue`). `Buffer` refines it along
`Buffer.readable` on every sequence of calls in which `makeSpace` never slides the data to the
front: the sliding branch copies from `begin()` instead of `beginRead()`.
-/

namespace Miniduo

/-! ## Operations and the abstract queue -/

/-- A call of a public member of `Buffer`. The pointer given to `retrieveUntil` is
`beginRead() + len`, and `readFd` carries what `readv(2)` returns. -/
inductive BufferOp
  | append (data : Bytes)
  | retrieve (len : ℕ)
  | retrieveUntil (len : ℕ)
  | retrieveAll
  | retrieveAsString
  | makeSpace (len : ℕ)
  | readFd (result : Option Bytes)

namespace ByteQueue

/-- What a call does to the queue, and the string it returns (only `retrieveAsString` returns
one). -/
def apply (q : Bytes) : BufferOp → Bytes × Bytes
  | .append data => (q ++ data, [])
  | .retrieve len => (q.drop len, [])
  | .retrieveUntil len => (q.drop len, [])
  | .retrieveAll => ([], [])
  | .retrieveAsString => ([], q)
  | .makeSpace _ => (q, [])
  | .readFd none => (q, [])
  | .readFd (some data) => (q ++ data, [])

end ByteQueue

namespace Buffer

/-- A call on the concrete buffer. -/
def apply (b : Buffer) : BufferOp → Except Fault (Buffer × Bytes)
  | .append data => return (← b.append data, [])
  | .retrieve len => return (← b.retrieve len, [])
  | .retrieveUntil len => return (← b.retrieveUntil (b.readerIndex_ + len), [])
  | .retrieveAll => return (b.retrieveAll, [])
  | .retrieveAsString => do
    let (str, b) ← b.retrieveAsString
    return (b, str)
  | .makeSpace len => return (← b.makeSpace len, [])
  | .readFd result => return (← b.readFd result, [])

/-- The preconditions that the members assert, and the bound of `readv(2)` on what it stores. -/
def Pre (b : Buffer) : BufferOp → Prop
  | .retrieve len => len ≤ b.readableBytes
  | .retrieveUntil len => b.readerIndex_ + len ≤ b.writerIndex_
  | .readFd (some data) => data.length ≤ b.writableBytes + extraSize
  | _ => True

/-- `makeSpace(len)` takes its second branch, which slides the data to the front. -/
def Slides (b : Buffer) (len : ℕ) : Prop :=
  ¬b.writableBytes ≥ len ∧ b.roomInAll ≥ len

/-- The `makeSpace` call that an operation makes, with the buffer it is made on. -/
def makeSpaceCall (b : Buffer) : BufferOp → Option (Buffer × ℕ)
  | .append data => some (b, data.length)
  | .makeSpace len => some (b, len)
  | .readFd (some data) =>
    if data.length ≤ b.writableBytes then none
    else some ({ b with writerIndex_ := b.buffer_.length }, data.length - b.writableBytes)
  | _ => none

/-- The operation does not slide the data, and what it asks for fits in a vector. -/
def NoSlide (b : Buffer) (op : BufferOp) : Prop :=
  ∀ call ∈ b.makeSpaceCall op, ¬call.1.Slides call.2 ∧ call.1.writerIndex_ + call.2 ≤ maxSize

instance (b : Buffer) : ∀ op, Decidable (b.Pre op)
  | .retrieve _ => inferInstanceAs (Decidable (_ ≤ _))
  | .retrieveUntil _ => inferInstanceAs (Decidable (_ ≤ _))
  | .readFd (some _) => inferInstanceAs (Decidable (_ ≤ _))
  | .readFd none => isTrue trivial
  | .append _ => isTrue trivial
  | .retrieveAll => isTrue trivial
  | .retrieveAsString => isTrue trivial
  | .makeSpace _ => isTrue trivial

instance (b : Buffer) (len : ℕ) : Decidable (b.Slides len) := inferInstanceAs (Decidable (_ ∧ _))

instance (b : Buffer) (op : BufferOp) : Decidable (b.NoSlide op) :=
  inferInstanceAs (Decidable (∀ call ∈ b.makeSpaceCall op, _))

/-! ## The index invariant -/

/-- The indices lie inside the vector. `prepend` may bring the reader below `kCheapPrepend`. -/
structure InBounds (b : Buffer) : Prop where
  front : kCheapPrepend ≤ b.buffer_.length
  order : b.readerIndex_ ≤ b.writerIndex_
  inside : b.writerIndex_ ≤ b.buffer_.length
  bounded : b.buffer_.length ≤ maxSize

/-- The indices lie inside the vector, behind the prependable bytes. -/
structure WF (b : Buffer) : Prop where
  prepend : kCheapPrepend ≤ b.readerIndex_
  order : b.readerIndex_ ≤ b.writerIndex_
  inside : b.writerIndex_ ≤ b.buffer_.length
  bounded : b.buffer_.length ≤ maxSize

lemma WF.inBounds {b : Buffer} (h : b.WF) : b.InBounds :=
  ⟨le_trans h.prepend (le_trans h.order h.inside), h.order, h.inside, h.bounded⟩

lemma InBounds.wf {b : Buffer} (h : b.InBounds) (hp : kCheapPrepend ≤ b.readerIndex_) : b.WF :=
  ⟨hp, h.order, h.inside, h.bounded⟩

lemma fresh_length : fresh.buffer_.length = kCheapPrepend + kInitialSize :=
  List.length_replicate

lemma fresh_wf : fresh.WF where
  prepend := le_refl _
  order := le_refl _
  inside := by rw [fresh_length]; exact Nat.le_add_right _ _
  bounded := by rw [fresh_length]; norm_num [kCheapPrepend, kInitialSize, maxSize]

@[simp] lemma fresh_readable : fresh.readable = [] := by
  rw [readable, show fresh.writerIndex_ = fresh.readerIndex_ from rfl, Nat.sub_self,
    List.take_zero]

section
variable {b : Buffer}

lemma InBounds.lt_modulus (h : b.InBounds) : b.buffer_.length < 2 ^ 64 := by
  have := h.bounded
  simp only [maxSize] at this
  omega

lemma InBounds.readableBytes_eq (h : b.InBounds) :
    b.readableBytes = b.writerIndex_ - b.readerIndex_ :=
  SizeT.sub_of_le h.order (lt_of_le_of_lt h.inside h.lt_modulus)

lemma InBounds.writableBytes_eq (h : b.InBounds) :
    b.writableBytes = b.buffer_.length - b.writerIndex_ :=
  SizeT.sub_of_le h.inside h.lt_modulus

lemma InBounds.prependableBytes_eq (h : b.InBounds) : b.prependableBytes = b.readerIndex_ :=
  SizeT.sub_of_le (Nat.zero_le _)
    (lt_of_le_of_lt (le_trans h.order h.inside) h.lt_modulus)

lemma InBounds.length_readable (h : b.InBounds) : b.readable.length = b.readableBytes := by
  have := h.order
  have := h.inside
  rw [h.readableBytes_eq, readable, List.length_take, List.length_drop]
  omega

lemma WF.length_readable (h : b.WF) : b.readable.length = b.readableBytes :=
  h.inBounds.length_readable

lemma WF.writableBytes_eq (h : b.WF) : b.writableBytes = b.buffer_.length - b.writerIndex_ :=
  h.inBounds.writableBytes_eq

lemma retrieveAll_wf (h : b.InBounds) : b.retrieveAll.WF where
  prepend := le_refl _
  order := le_refl _
  inside := h.front
  bounded := h.bounded

@[simp] lemma retrieveAll_readable (b : Buffer) : b.retrieveAll.readable = [] := by
  simp [retrieveAll, readable]

lemma resetIfEmpty_inBounds (h : b.InBounds) : b.resetIfEmpty.InBounds := by
  unfold resetIfEmpty
  split
  · exact (retrieveAll_wf h).inBounds
  · exact h

/-- The reader stays, or moves to the front. -/
lemma resetIfEmpty_readerIndex (b : Buffer) :
    min kCheapPrepend b.readerIndex_ ≤ b.resetIfEmpty.readerIndex_ := by
  unfold resetIfEmpty
  split
  · exact min_le_left _ _
  · exact min_le_right _ _

/-- Moving both indices back to the front changes nothing readable. -/
@[simp] lemma resetIfEmpty_readable (b : Buffer) : b.resetIfEmpty.readable = b.readable := by
  unfold resetIfEmpty
  split
  · rename_i h
    rw [retrieveAll_readable, readable, h, Nat.sub_self, List.take_zero]
  · rfl

/-! ## One specification for each member

Each is stated for buffers whose reader may lie below `kCheapPrepend`, and says that the reader
does not fall (further) below it.
-/

/-- `readerIndex_ += len`, within the readable bytes. -/
lemma InBounds.advance (h : b.InBounds) (len : ℕ) (hlen : len ≤ b.readableBytes) :
    SizeT.add b.readerIndex_ len = b.readerIndex_ + len ∧
      InBounds { b with readerIndex_ := SizeT.add b.readerIndex_ len } ∧
      readable { b with readerIndex_ := SizeT.add b.readerIndex_ len } = b.readable.drop len := by
  have ho := h.order
  have hi := h.inside
  have hm := h.lt_modulus
  rw [h.readableBytes_eq] at hlen
  have hadd : SizeT.add b.readerIndex_ len = b.readerIndex_ + len :=
    SizeT.add_of_lt (by omega)
  rw [hadd]
  refine ⟨rfl, ⟨h.front, by simp only; omega, hi, h.bounded⟩, ?_⟩
  simp only [readable, List.drop_take, List.drop_drop]
  congr 1
  omega

/-- The tail of `retrieve` and `retrieveUntil`, once the reader has moved. -/
lemma InBounds.advance_reset (h : b.InBounds) {len : ℕ} (hlen : len ≤ b.readableBytes) {b' : Buffer}
    (hb' : b' = resetIfEmpty { b with readerIndex_ := SizeT.add b.readerIndex_ len }) :
    b'.InBounds ∧ min kCheapPrepend b.readerIndex_ ≤ b'.readerIndex_ ∧
      b'.readable = b.readable.drop len := by
  obtain ⟨hadd, hin, hread⟩ := h.advance len hlen
  subst hb'
  refine ⟨resetIfEmpty_inBounds hin, ?_, (resetIfEmpty_readable _).trans hread⟩
  refine le_trans ?_ (resetIfEmpty_readerIndex _)
  simp only [hadd]
  omega

/-- `retrieve` drops a prefix. -/
lemma InBounds.retrieve_spec (h : b.InBounds) {len : ℕ} (hlen : len ≤ b.readableBytes) :
    ∃ b', b.retrieve len = .ok b' ∧ b'.InBounds ∧
      min kCheapPrepend b.readerIndex_ ≤ b'.readerIndex_ ∧
      b'.readable = b.readable.drop len := by
  refine ⟨_, ?_, h.advance_reset hlen rfl⟩
  simp only [retrieve, assertThat_pos hlen, except_ok_bind]
  rfl

/-- `retrieveUntil(beginRead() + len)` is `retrieve(len)`. -/
lemma InBounds.retrieveUntil_spec (h : b.InBounds) {len : ℕ}
    (hlen : b.readerIndex_ + len ≤ b.writerIndex_) :
    ∃ b', b.retrieveUntil (b.readerIndex_ + len) = .ok b' ∧ b'.InBounds ∧
      min kCheapPrepend b.readerIndex_ ≤ b'.readerIndex_ ∧
      b'.readable = b.readable.drop len := by
  have hi := h.inside
  have hm := h.lt_modulus
  have hsub : SizeT.sub (b.readerIndex_ + len) b.readerIndex_ = len := by
    rw [SizeT.sub_of_le (Nat.le_add_right _ _) (by omega), Nat.add_sub_cancel_left]
  have hle : len ≤ b.readableBytes := by
    rw [h.readableBytes_eq]
    omega
  refine ⟨_, ?_, h.advance_reset hle rfl⟩
  simp only [retrieveUntil, assertThat_pos (⟨Nat.le_add_right _ _, hlen⟩ :
    b.readerIndex_ + len ≥ b.readerIndex_ ∧ b.readerIndex_ + len ≤ b.writerIndex_),
    except_ok_bind, hsub]
  rfl

/-- `retrieveAsString` returns the readable bytes and empties the buffer. -/
lemma InBounds.retrieveAsString_spec (h : b.InBounds) :
    b.retrieveAsString = .ok (b.readable, b.retrieveAll) := by
  simp only [retrieveAsString, copyOut, if_pos (And.intro h.order h.inside), except_ok_bind]
  rfl

/-- A resize that keeps everything up to the write index keeps the readable bytes. -/
lemma InBounds.grow (h : b.InBounds) {len : ℕ} (hfit : b.writerIndex_ + len ≤ maxSize)
    (hshort : ¬b.writableBytes ≥ len) :
    ∃ v, resize b.buffer_ (SizeT.add b.writerIndex_ len) = .ok v ∧
      v.length = b.writerIndex_ + len ∧ v.take b.writerIndex_ = b.buffer_.take b.writerIndex_ := by
  have hi := h.inside
  rw [h.writableBytes_eq] at hshort
  have hadd : SizeT.add b.writerIndex_ len = b.writerIndex_ + len := by
    refine SizeT.add_of_lt (lt_of_le_of_lt hfit ?_)
    norm_num [maxSize]
  refine ⟨_, by rw [hadd, resize, if_pos hfit], ?_, ?_⟩
  · simp only [List.length_append, List.length_take, List.length_replicate]
    omega
  · rw [List.take_of_length_le (l := b.buffer_) (i := b.writerIndex_ + len) (by omega),
      List.take_append_of_le_length hi]

lemma readable_eq_drop_take (b : Buffer) :
    b.readable = (b.buffer_.take b.writerIndex_).drop b.readerIndex_ := by
  rw [readable, List.drop_take]

/-- Without sliding, `makeSpace` only grows the vector behind the readable bytes. -/
lemma InBounds.makeSpace_spec (h : b.InBounds) {len : ℕ} (hs : ¬b.Slides len)
    (hfit : b.writerIndex_ + len ≤ maxSize) :
    ∃ v, b.makeSpace len = .ok { b with buffer_ := v } ∧ InBounds { b with buffer_ := v } ∧
      v.take b.writerIndex_ = b.buffer_.take b.writerIndex_ ∧
      b.writerIndex_ + len ≤ v.length := by
  have hf := h.front
  have hi := h.inside
  unfold makeSpace
  -- there is room behind the write index, or the vector grows
  by_cases hroom : b.writableBytes ≥ len
  · refine ⟨b.buffer_, if_pos hroom, h, rfl, ?_⟩
    rw [h.writableBytes_eq] at hroom
    omega
  · have hall : ¬b.roomInAll ≥ len := fun hall => hs ⟨hroom, hall⟩
    obtain ⟨v, hv, hlen, htake⟩ := h.grow hfit hroom
    have hshort := hroom
    rw [h.writableBytes_eq] at hshort
    have hwf : InBounds { b with buffer_ := v } :=
      ⟨by simp only; omega, h.order, by simp only; omega, by simp only; omega⟩
    have hwritable : writableBytes { b with buffer_ := v } ≥ len := by
      rw [hwf.writableBytes_eq]
      simp only
      omega
    refine ⟨v, ?_, hwf, htake, le_of_eq hlen.symm⟩
    rw [if_neg hroom, if_neg hall, hv]
    simp only [except_ok_bind, pure, Except.pure, assertThat_pos hwritable]

/-- Bytes stored at the write index become readable when the index moves past them. -/
lemma InBounds.store (h : b.InBounds) (data : Bytes)
    (hroom : b.writerIndex_ + data.length ≤ b.buffer_.length) :
    ∃ v, copyIn b.buffer_ b.writerIndex_ data = .ok v ∧ v.length = b.buffer_.length ∧
      InBounds { b with buffer_ := v, writerIndex_ := b.writerIndex_ + data.length } ∧
      readable { b with buffer_ := v, writerIndex_ := b.writerIndex_ + data.length } =
        b.readable ++ data := by
  have hf := h.front
  have ho := h.order
  have hi := h.inside
  have hlen : (b.buffer_.take b.writerIndex_ ++ data ++
      b.buffer_.drop (b.writerIndex_ + data.length)).length = b.buffer_.length := by
    simp only [List.length_append, List.length_take, List.length_drop]
    omega
  refine ⟨_, if_pos hroom, hlen, ⟨?_, by simp only; omega, ?_, ?_⟩, ?_⟩
  · rw [hlen]; exact hf
  · rw [hlen]; exact hroom
  · rw [hlen]; exact h.bounded
  · -- what is in front of the write index is not touched
    have htake : (b.buffer_.take b.writerIndex_ ++ data ++
        b.buffer_.drop (b.writerIndex_ + data.length)).take (b.writerIndex_ + data.length)
          = b.buffer_.take b.writerIndex_ ++ data := by
      rw [List.take_append_of_le_length (by simp only [List.length_append, List.length_take]; omega)]
      refine List.take_of_length_le ?_
      simp only [List.length_append, List.length_take]
      omega
    rw [readable_eq_drop_take, readable_eq_drop_take]
    simp only [htake]
    rw [List.drop_append_of_le_length (by rw [List.length_take]; omega)]

/-- Once `makeSpace` has made room, `append` stores its bytes there. -/
lemma append_of_makeSpace {data : Bytes} {b₁ : Buffer} (hmake : b.makeSpace data.length = .ok b₁)
    (h : b₁.InBounds) (hroom : b₁.writerIndex_ + data.length ≤ b₁.buffer_.length) :
    ∃ b', b.append data = .ok b' ∧ b'.InBounds ∧ b'.readerIndex_ = b₁.readerIndex_ ∧
      b'.readable = b₁.readable ++ data := by
  obtain ⟨v, hcopy, -, hwf, hread⟩ := h.store data hroom
  have hwritable : b₁.writableBytes ≥ data.length := by
    rw [h.writableBytes_eq]
    omega
  have hadd : SizeT.add b₁.writerIndex_ data.length = b₁.writerIndex_ + data.length :=
    SizeT.add_of_lt (lt_of_le_of_lt hroom h.lt_modulus)
  refine ⟨_, ?_, hwf, rfl, hread⟩
  simp only [append, hmake, except_ok_bind, assertThat_pos hwritable, hcopy, hadd]
  rfl

/-- `append` adds exactly its bytes at the end. -/
lemma InBounds.append_spec (h : b.InBounds) (data : Bytes) (hs : ¬b.Slides data.length)
    (hfit : b.writerIndex_ + data.length ≤ maxSize) :
    ∃ b', b.append data = .ok b' ∧ b'.InBounds ∧ b'.readerIndex_ = b.readerIndex_ ∧
      b'.readable = b.readable ++ data := by
  obtain ⟨v, hmake, hwf, htake, hroom⟩ := h.makeSpace_spec hs hfit
  obtain ⟨b', happend, hwf', hreader, hread⟩ := append_of_makeSpace hmake hwf hroom
  refine ⟨b', happend, hwf', hreader, ?_⟩
  rw [hread, readable_eq_drop_take, readable_eq_drop_take]
  simp only [htake]

/-- Which branch `makeSpace` takes depends on the indices and the size of the vector only. -/
lemma slides_congr {v w : Bytes} (hvw : v.length = w.length) (r i len : ℕ) :
    Slides ⟨v, r, i⟩ len ↔ Slides ⟨w, r, i⟩ len := by
  simp only [Slides, roomInAll, writableBytes, prependableBytes, hvw]

lemma writableBytes_congr {v w : Bytes} (hvw : v.length = w.length) (r i : ℕ) :
    writableBytes ⟨v, r, i⟩ = writableBytes ⟨w, r, i⟩ := by
  simp only [writableBytes, hvw]

/-- What `readv(2)` stores behind the write index fits there: `readFd` only moves the index. -/
lemma InBounds.readFd_fits (h : b.InBounds) {data : Bytes} (hle : data.length ≤ b.writableBytes) :
    ∃ b', b.readFd (some data) = .ok b' ∧ b'.InBounds ∧ b'.readerIndex_ = b.readerIndex_ ∧
      b'.readable = b.readable ++ data := by
  have hi := h.inside
  have hfit : b.writerIndex_ + data.length ≤ b.buffer_.length := by
    rw [h.writableBytes_eq] at hle
    omega
  obtain ⟨v, hcopy, -, hwf', hread⟩ := h.store data hfit
  have hadd : SizeT.add b.writerIndex_ data.length = b.writerIndex_ + data.length :=
    SizeT.add_of_lt (lt_of_le_of_lt hfit h.lt_modulus)
  refine ⟨_, ?_, hwf', rfl, hread⟩
  simp only [readFd, List.take_of_length_le hle, hcopy, except_ok_bind, if_pos hle, hadd]
  rfl

/-- What does not fit there spills into `extrabuf`, and `readFd` appends it to a full vector. -/
lemma InBounds.readFd_spills (h : b.InBounds) {data : Bytes}
    (hle : ¬data.length ≤ b.writableBytes) :
    ∃ v, v.length = b.buffer_.length ∧ InBounds { b with buffer_ := v, writerIndex_ := v.length } ∧
      readable { b with buffer_ := v, writerIndex_ := v.length } =
        b.readable ++ data.take b.writableBytes ∧
      b.readFd (some data) =
        append { b with buffer_ := v, writerIndex_ := v.length } (data.drop b.writableBytes) := by
  have hi := h.inside
  have htake : (data.take b.writableBytes).length = b.writableBytes := by
    rw [List.length_take]
    omega
  have hfull : b.writerIndex_ + (data.take b.writableBytes).length = b.buffer_.length := by
    rw [htake, h.writableBytes_eq]
    omega
  obtain ⟨v, hcopy, hv, hwf', hread⟩ := h.store _ (le_of_eq hfull)
  rw [hfull, ← hv] at hwf' hread
  refine ⟨v, hv, hwf', hread, ?_⟩
  simp only [readFd, hcopy, except_ok_bind, if_neg hle]

/-- `readFd` adds exactly the bytes read, whether they fit behind the write index or spill into
`extrabuf`. -/
lemma InBounds.readFd_spec (h : b.InBounds) {data : Bytes}
    (hs : b.NoSlide (.readFd (some data))) :
    ∃ b', b.readFd (some data) = .ok b' ∧ b'.InBounds ∧ b'.readerIndex_ = b.readerIndex_ ∧
      b'.readable = b.readable ++ data := by
  by_cases hle : data.length ≤ b.writableBytes
  · exact h.readFd_fits hle
  · obtain ⟨v, hv, hwf', hread, heq⟩ := h.readFd_spills hle
    obtain ⟨hslide, hgrow⟩ := hs _ (if_neg hle)
    have hdrop : (data.drop b.writableBytes).length = data.length - b.writableBytes :=
      List.length_drop
    obtain ⟨b', happ, hwf'', hreader, hread'⟩ :=
      hwf'.append_spec (data.drop b.writableBytes)
        (by rw [hdrop, slides_congr hv, hv]; exact hslide) (by rw [hdrop, hv]; exact hgrow)
    refine ⟨b', heq.trans happ, hwf'', hreader, ?_⟩
    rw [hread', hread, List.append_assoc, List.take_append_drop]

/-! ## Calls that may slide -/

/-- The room in all, in exact arithmetic: nothing wraps behind `kCheapPrepend`. -/
lemma WF.roomInAll_eq (h : b.WF) :
    b.roomInAll = b.readerIndex_ - kCheapPrepend + (b.buffer_.length - b.writerIndex_) := by
  have hp := h.prepend
  have ho := h.order
  have hi := h.inside
  have hm := h.inBounds.lt_modulus
  rw [roomInAll, h.inBounds.prependableBytes_eq, h.writableBytes_eq, SizeT.sub_of_le hp (by omega),
    SizeT.add_of_lt (by omega)]

/-- Below `kCheapPrepend` the difference wraps, and comes back below the writable room unless that
is smaller than what is missing in front. -/
lemma InBounds.tight_of_slides (h : b.InBounds) (hr : b.readerIndex_ < kCheapPrepend) {len : ℕ}
    (hs : b.Slides len) : b.writableBytes < kCheapPrepend := by
  obtain ⟨hroom, hall⟩ := hs
  have hm := h.lt_modulus
  have hw := h.writableBytes_eq
  simp only [roomInAll, h.prependableBytes_eq, SizeT.sub, SizeT.add, kCheapPrepend] at hall hr ⊢
  omega

/-- A slide with `kCheapPrepend` writable bytes stays inside the vector and makes the room. -/
lemma InBounds.makeSpace_slide (h : b.InBounds) {len : ℕ} (hs : b.Slides len)
    (hfit : kCheapPrepend ≤ b.writableBytes) :
    ∃ b', b.makeSpace len = .ok b' ∧ b'.WF ∧ b'.writerIndex_ + len ≤ b'.buffer_.length := by
  have ho := h.order
  have hi := h.inside
  have hm := h.lt_modulus
  have hk : kCheapPrepend = 8 := rfl
  have hp : kCheapPrepend ≤ b.readerIndex_ := by
    by_contra hlow
    exact absurd (h.tight_of_slides (not_le.mp hlow) hs) (not_lt.mpr hfit)
  obtain ⟨hroom, hall⟩ := hs
  have hdata : copyOut b.buffer_ 0 b.writerIndex_ = .ok (b.buffer_.take b.writerIndex_) := by
    rw [copyOut, if_pos ⟨Nat.zero_le _, hi⟩, List.drop_zero, Nat.sub_zero]
  have hdlen : (b.buffer_.take b.writerIndex_).length = b.writerIndex_ := by
    rw [List.length_take, Nat.min_eq_left hi]
  rw [h.writableBytes_eq] at hfit
  have hall' : b.readerIndex_ - kCheapPrepend + (b.buffer_.length - b.writerIndex_) ≥ len := by
    rw [← (h.wf hp).roomInAll_eq]
    exact hall
  have hadd : SizeT.add kCheapPrepend b.readableBytes
      = 8 + (b.writerIndex_ - b.readerIndex_) := by
    rw [h.readableBytes_eq, SizeT.add_of_lt (by omega), hk]
  have hcopy : copyIn b.buffer_ kCheapPrepend (b.buffer_.take b.writerIndex_) = .ok _ :=
    if_pos (by rw [hdlen]; omega)
  have hvlen : (b.buffer_.take kCheapPrepend ++ b.buffer_.take b.writerIndex_ ++
      b.buffer_.drop (kCheapPrepend + (b.buffer_.take b.writerIndex_).length)).length
        = b.buffer_.length := by
    simp only [List.length_append, List.length_take, List.length_drop]
    omega
  generalize hv : b.buffer_.take kCheapPrepend ++ b.buffer_.take b.writerIndex_ ++
    b.buffer_.drop (kCheapPrepend + (b.buffer_.take b.writerIndex_).length) = v at hcopy hvlen
  have hwf : WF ⟨v, kCheapPrepend, SizeT.add kCheapPrepend b.readableBytes⟩ := by
    rw [hadd]
    refine ⟨le_refl _, by simp only [hk]; omega, ?_, ?_⟩
    · simp only [hvlen]
      omega
    · simp only [hvlen]
      exact h.bounded
  have hroom' : SizeT.add kCheapPrepend b.readableBytes + len ≤ v.length := by
    rw [hadd, hvlen]
    omega
  refine ⟨_, ?_, hwf, hroom'⟩
  have hassert : writableBytes ⟨v, kCheapPrepend, SizeT.add kCheapPrepend b.readableBytes⟩
      ≥ len := by
    rw [hwf.writableBytes_eq]
    simp only
    omega
  rw [makeSpace, if_neg hroom, if_pos hall]
  simp only [hdata, hcopy, except_ok_bind, pure, Except.pure, assertThat_pos hassert]

/-- With fewer writable bytes the copy runs past the end: it moves everything up to the write
index by `kCheapPrepend`. -/
lemma InBounds.makeSpace_tight (h : b.InBounds) {len : ℕ} (hs : b.Slides len)
    (htight : b.writableBytes < kCheapPrepend) : b.makeSpace len = .error .outOfBounds := by
  have hi := h.inside
  have hdata : copyOut b.buffer_ 0 b.writerIndex_ = .ok (b.buffer_.take b.writerIndex_) := by
    rw [copyOut, if_pos ⟨Nat.zero_le _, hi⟩, List.drop_zero, Nat.sub_zero]
  have hfit : ¬kCheapPrepend + (b.buffer_.take b.writerIndex_).length ≤ b.buffer_.length := by
    rw [List.length_take, Nat.min_eq_left hi]
    rw [h.writableBytes_eq] at htight
    omega
  rw [makeSpace, if_neg hs.1, if_pos hs.2]
  simp only [hdata, except_ok_bind, copyIn, if_neg hfit, except_error_bind]

/-- `resize` refuses a size that no vector has. -/
lemma InBounds.makeSpace_refused (h : b.InBounds) {len : ℕ} (hs : ¬b.Slides len)
    (hrange : b.writerIndex_ + len < 2 ^ 64) (hfit : ¬b.writerIndex_ + len ≤ maxSize) :
    b.makeSpace len = .error .lengthError := by
  have hi := h.inside
  have hb := h.bounded
  have hroom : ¬b.writableBytes ≥ len := by
    rw [h.writableBytes_eq]
    omega
  have hall : ¬b.roomInAll ≥ len := fun hall => hs ⟨hroom, hall⟩
  rw [makeSpace, if_neg hroom, if_neg hall, SizeT.add_of_lt hrange, resize, if_neg hfit]
  rfl

/-- `makeSpace` makes room, or faults while it copies or resizes. -/
lemma makeSpace_total (h : b.WF) {len : ℕ} (hlen : len ≤ maxSize) :
    b.makeSpace len = .error .outOfBounds ∨ b.makeSpace len = .error .lengthError ∨
      ∃ b', b.makeSpace len = .ok b' ∧ b'.WF ∧ b'.writerIndex_ + len ≤ b'.buffer_.length := by
  have hin := h.inBounds
  have hb := hin.bounded
  have hi := hin.inside
  by_cases hs : b.Slides len
  · by_cases hfit : kCheapPrepend ≤ b.writableBytes
    · exact Or.inr (Or.inr (hin.makeSpace_slide hs hfit))
    · exact Or.inl (hin.makeSpace_tight hs (not_le.mp hfit))
  · by_cases hfit : b.writerIndex_ + len ≤ maxSize
    · obtain ⟨v, hmake, hwf, -, hroom⟩ := hin.makeSpace_spec hs hfit
      exact Or.inr (Or.inr ⟨_, hmake, hwf.wf h.prepend, hroom⟩)
    · refine Or.inr (Or.inl (hin.makeSpace_refused hs ?_ hfit))
      simp only [maxSize] at hlen hb
      omega

/-- `append` returns a buffer with well placed indices, or faults in `makeSpace`. -/
lemma append_total (h : b.WF) {data : Bytes} (hlen : data.length ≤ maxSize) :
    b.append data = .error .outOfBounds ∨ b.append data = .error .lengthError ∨
      ∃ b', b.append data = .ok b' ∧ b'.WF := by
  rcases makeSpace_total h hlen with hmake | hmake | ⟨b₁, hmake, hwf, hroom⟩
  · exact Or.inl (by rw [append, hmake, except_error_bind])
  · exact Or.inr (Or.inl (by rw [append, hmake, except_error_bind]))
  · obtain ⟨b', happend, hwf', hreader, -⟩ := append_of_makeSpace hmake hwf.inBounds hroom
    exact Or.inr (Or.inr ⟨b', happend, hwf'.wf (hreader ▸ hwf.prepend)⟩)

/-- A call of `append` that returns keeps the indices well placed. -/
lemma append_wf (h : b.WF) {data : Bytes} (hlen : data.length ≤ maxSize) {b' : Buffer}
    (happend : b.append data = .ok b') : b'.WF := by
  rcases append_total h hlen with heq | heq | ⟨b₁, heq, hwf⟩
  · rw [happend] at heq
    cases heq
  · rw [happend] at heq
    cases heq
  · rw [happend, Except.ok.injEq] at heq
    rwa [heq]

/-- A call of `append` that returns without sliding has added its bytes. -/
lemma append_ok (h : b.WF) {data : Bytes} (hlen : data.length ≤ maxSize) {b' : Buffer}
    (happend : b.append data = .ok b') (hs : ¬b.Slides data.length) :
    b'.readable = b.readable ++ data := by
  have hin := h.inBounds
  by_cases hfit : b.writerIndex_ + data.length ≤ maxSize
  · obtain ⟨b₁, heq, -, -, hread⟩ := hin.append_spec data hs hfit
    rw [happend, Except.ok.injEq] at heq
    rw [heq, hread]
  · -- there would have been no room and no way to get any
    have hrange : b.writerIndex_ + data.length < 2 ^ 64 := by
      have hbounded := h.bounded
      have hi := h.inside
      simp only [maxSize] at hlen hbounded
      omega
    rw [append, hin.makeSpace_refused hs hrange hfit] at happend
    cases happend

/-- An empty `append` makes no room. -/
lemma not_slides_zero (b : Buffer) : ¬b.Slides 0 := fun hs => hs.1 (Nat.zero_le _)

/-- Before anything is retrieved there is no room in front. -/
lemma not_slides_unread {b : Buffer} (hreader : b.readerIndex_ = kCheapPrepend) (len : ℕ) :
    ¬b.Slides len := by
  have hmod : b.writableBytes < 2 ^ 64 := Nat.mod_lt _ (by norm_num)
  have hroom : b.roomInAll = b.writableBytes := by
    have hfront : SizeT.sub b.prependableBytes kCheapPrepend = 0 := by
      rw [prependableBytes, hreader]
      decide
    rw [roomInAll, hfront, SizeT.add_of_lt (by omega), Nat.zero_add]
  rintro ⟨hno, hall⟩
  omega

/-- `append` without sliding leaves the reader where it is. -/
lemma append_readerIndex {data : Bytes} {b' : Buffer} (happend : b.append data = .ok b')
    (hs : ¬b.Slides data.length) : b'.readerIndex_ = b.readerIndex_ := by
  obtain ⟨b₁, hmake, happend⟩ := except_bind_eq_ok.mp happend
  obtain ⟨_, _, happend⟩ := except_bind_eq_ok.mp happend
  obtain ⟨buffer_, _, happend⟩ := except_bind_eq_ok.mp happend
  obtain rfl := Except.ok.inj happend
  show b₁.readerIndex_ = _
  rw [makeSpace] at hmake
  split at hmake
  · rw [← Except.ok.inj hmake]
  · rename_i hroom
    rw [if_neg fun hall => hs ⟨hroom, hall⟩] at hmake
    obtain ⟨buffer_, _, hmake⟩ := except_bind_eq_ok.mp hmake
    obtain ⟨b₂, hb₂, hmake⟩ := except_bind_eq_ok.mp hmake
    obtain ⟨_, _, hmake⟩ := except_bind_eq_ok.mp hmake
    rw [← Except.ok.inj hmake, ← Except.ok.inj hb₂]

/-- A call of `retrieve` that returns has dropped a prefix. -/
lemma retrieve_ok (h : b.WF) {len : ℕ} {b' : Buffer} (hretrieve : b.retrieve len = .ok b') :
    b'.WF ∧ b'.readable = b.readable.drop len := by
  obtain ⟨_, hassert, -⟩ := except_bind_eq_ok.mp hretrieve
  obtain ⟨b₁, heq, hwf, hreader, hread⟩ := h.inBounds.retrieve_spec (assertThat_eq_ok.mp hassert)
  rw [hretrieve, Except.ok.injEq] at heq
  rw [heq]
  exact ⟨hwf.wf (le_trans (le_min (le_refl _) h.prepend) hreader), hread⟩

/-- `readFd` returns a buffer with well placed indices, or faults in `append`. -/
lemma readFd_total (h : b.WF) {data : Bytes} (hlen : data.length ≤ b.writableBytes + extraSize) :
    b.readFd (some data) = .error .outOfBounds ∨ b.readFd (some data) = .error .lengthError ∨
      ∃ b', b.readFd (some data) = .ok b' ∧ b'.WF := by
  -- the data fits behind the write index, or spills into `extrabuf`
  by_cases hle : data.length ≤ b.writableBytes
  · obtain ⟨b', hread, hwf, hreader, -⟩ := h.inBounds.readFd_fits hle
    exact Or.inr (Or.inr ⟨b', hread, hwf.wf (hreader ▸ h.prepend)⟩)
  · obtain ⟨v, hv, hwf', -, heq⟩ := h.inBounds.readFd_spills hle
    have hrest : (data.drop b.writableBytes).length ≤ maxSize := by
      rw [List.length_drop]
      simp only [extraSize] at hlen
      simp only [maxSize]
      omega
    rw [heq]
    exact append_total (hwf'.wf h.prepend) hrest

/-- Every call that does not slide the data answers as the queue does. -/
lemma InBounds.apply_refines (h : b.InBounds) {op : BufferOp} (hpre : b.Pre op)
    (hs : b.NoSlide op) :
    ∃ b', b.apply op = .ok (b', (ByteQueue.apply b.readable op).2) ∧ b'.InBounds ∧
      min kCheapPrepend b.readerIndex_ ≤ b'.readerIndex_ ∧
      b'.readable = (ByteQueue.apply b.readable op).1 := by
  have hsame : ∀ {b' : Buffer}, b'.readerIndex_ = b.readerIndex_ →
      min kCheapPrepend b.readerIndex_ ≤ b'.readerIndex_ :=
    fun heq => le_of_le_of_eq (min_le_right _ _) heq.symm
  cases op with
  | append data =>
    obtain ⟨hslide, hfit⟩ := hs _ rfl
    obtain ⟨b', heq, hwf, hreader, hread⟩ := h.append_spec _ hslide hfit
    exact ⟨b', by rw [apply, heq]; rfl, hwf, hsame hreader, hread⟩
  | retrieve len =>
    obtain ⟨b', heq, hwf, hreader, hread⟩ := h.retrieve_spec hpre
    exact ⟨b', by rw [apply, heq]; rfl, hwf, hreader, hread⟩
  | retrieveUntil len =>
    obtain ⟨b', heq, hwf, hreader, hread⟩ := h.retrieveUntil_spec hpre
    exact ⟨b', by rw [apply, heq]; rfl, hwf, hreader, hread⟩
  | retrieveAll =>
    exact ⟨b.retrieveAll, rfl, (retrieveAll_wf h).inBounds, min_le_left _ _,
      retrieveAll_readable b⟩
  | retrieveAsString =>
    refine ⟨b.retrieveAll, ?_, (retrieveAll_wf h).inBounds, min_le_left _ _,
      retrieveAll_readable b⟩
    rw [apply, h.retrieveAsString_spec]
    rfl
  | makeSpace len =>
    obtain ⟨hslide, hfit⟩ := hs _ rfl
    obtain ⟨v, heq, hwf, htake, -⟩ := h.makeSpace_spec hslide hfit
    refine ⟨_, by rw [apply, heq]; rfl, hwf, hsame rfl, ?_⟩
    rw [readable_eq_drop_take]
    simp only [htake, ByteQueue.apply]
    exact (readable_eq_drop_take b).symm
  | readFd result =>
    cases result with
    | none => exact ⟨b, rfl, h, hsame rfl, rfl⟩
    | some data =>
      obtain ⟨b', heq, hwf, hreader, hread⟩ := h.readFd_spec hs
      exact ⟨b', by rw [apply, heq]; rfl, hwf, hsame hreader, hread⟩

end

/-! ## Runs -/

/-- A run from the fresh buffer: the strings returned and the readable bytes at its end are those
of the queue. -/
def IsFifo (ops : List BufferOp) : Prop :=
  ∃ b, Refinement.run apply fresh ops = .ok (b, (Refinement.specRun ByteQueue.apply [] ops).2) ∧
    b.readable = (Refinement.specRun ByteQueue.apply [] ops).1

/-- Every call of the run respects the asserted preconditions. -/
def Respects (ops : List BufferOp) : Prop := Refinement.AllSteps Pre apply fresh ops

instance (ops : List BufferOp) : Decidable (Respects ops) :=
  inferInstanceAs (Decidable (Refinement.AllSteps _ _ _ _))

/-- **`Buffer` is a byte queue** on every run that never slides the data to the front. The
sliding branch is the only one that can break it; see `buffer_not_fifo`. -/
theorem buffer_fifo_of_noSlide (ops : List BufferOp) (hpre : Respects ops)
    (hs : Refinement.AllSteps NoSlide apply fresh ops) : IsFifo ops := by
  have hstep : ∀ (b : Buffer) (q : Bytes) (op : BufferOp), (b.InBounds ∧ b.readable = q) →
      (b.Pre op ∧ b.NoSlide op) →
      ∃ b', b.apply op = .ok (b', (ByteQueue.apply q op).2) ∧
        (b'.InBounds ∧ b'.readable = (ByteQueue.apply q op).1) := by
    rintro b q op ⟨hwf, rfl⟩ ⟨hp, hn⟩
    obtain ⟨b', heq, hwf', -, hread⟩ := hwf.apply_refines hp hn
    exact ⟨b', heq, hwf', hread⟩
  obtain ⟨b, hrun, -, hread⟩ :=
    Refinement.refines_run hstep ⟨fresh_wf.inBounds, fresh_readable⟩ (Machine.AllSteps.and hpre hs)
  exact ⟨b, hrun, hread⟩

/-- A run that reads past the end of the vector, consumes a prefix and appends again. -/
theorem buffer_fifo_readFd :
    IsFifo [.readFd (some (List.replicate 1500 1)), .retrieve 1, .append [2, 3],
      .retrieveUntil 1400, .retrieveAsString, .makeSpace 4000] :=
  buffer_fifo_of_noSlide _ (by decide +kernel) (by decide +kernel)

/-- Three calls after which the readable bytes are not those of the queue: once 100 of 1000 bytes
are consumed, appending 110 more slides the data. -/
def slidingRun : List BufferOp :=
  [.append (List.replicate 1000 1), .retrieve 100, .append (List.replicate 110 2)]

/-- The run of `slidingRun` respects every precondition and returns, but its readable bytes begin
with a zero of the prepend area. -/
theorem buffer_not_fifo : ¬∀ ops, Respects ops → IsFifo ops := by
  intro h
  have hrun : (Refinement.run apply fresh slidingRun).map (fun r => r.1.readable.head?)
      = .ok (some 0) := by decide +kernel
  have hspec : (Refinement.specRun ByteQueue.apply [] slidingRun).1.head? = some 1 := by
    decide +kernel
  obtain ⟨b, hb, hread⟩ := h slidingRun (by decide +kernel)
  rw [hb] at hrun
  have hhead : b.readable.head? = some 0 := Except.ok.inj hrun
  rw [← hread, hhead] at hspec
  exact absurd hspec (by decide)

end Buffer
end Miniduo
