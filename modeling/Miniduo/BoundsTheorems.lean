import Miniduo.BufferTheorems
import Miniduo.Lib.Machine

/-!
# Where the members of `Buffer` write

All public members of `Buffer`, on any number of buffers (`swap` takes two). Whatever is called,
in whatever order, the indices stay inside the vector. The copies do too, with one exception: the
sliding branch of `makeSpace` moves the whole front of the vector by `kCheapPrepend`, the bytes
before the reader included, and runs past the end when fewer bytes than that are writable.
-/

namespace Miniduo

/-- A call of a public member of one buffer. -/
inductive BufferCall
  | member (op : BufferOp)
  | prepend (data : Bytes)
  | hasWritten (len : ℕ)

/-- A call on the buffers that `ι` names. -/
inductive PoolCall (ι : Type)
  | on (i : ι) (call : BufferCall)
  | swap (i j : ι)

namespace Buffer

def call (b : Buffer) : BufferCall → Except Fault Buffer
  | .member op => return (← b.apply op).1
  | .prepend data => b.prepend data
  | .hasWritten len => b.hasWritten len

/-- The preconditions that the members assert. -/
def CallPre (b : Buffer) : BufferCall → Prop
  | .member op => b.Pre op
  | .prepend data => data.length ≤ b.prependableBytes
  | .hasWritten len => len ≤ b.writableBytes

/-- The size that `makeSpace` may ask for, `writerIndex_ + len`, is a `size_t`. -/
def InRange (b : Buffer) : BufferCall → Prop
  | .member op => ∀ call ∈ b.makeSpaceCall op, call.1.writerIndex_ + call.2 < 2 ^ 64
  | _ => True

/-- Where `makeSpace` slides the data, at least `kCheapPrepend` bytes are writable. -/
def RoomToSlide (b : Buffer) : BufferCall → Prop
  | .member op =>
    ∀ call ∈ b.makeSpaceCall op, call.1.Slides call.2 → kCheapPrepend ≤ call.1.writableBytes
  | _ => True

instance (b : Buffer) : ∀ c, Decidable (b.CallPre c)
  | .member op => inferInstanceAs (Decidable (b.Pre op))
  | .prepend _ => inferInstanceAs (Decidable (_ ≤ _))
  | .hasWritten _ => inferInstanceAs (Decidable (_ ≤ _))

instance (b : Buffer) : ∀ c, Decidable (b.InRange c)
  | .member op =>
    inferInstanceAs (Decidable (∀ call ∈ b.makeSpaceCall op, call.1.writerIndex_ + call.2 < 2 ^ 64))
  | .prepend _ => isTrue trivial
  | .hasWritten _ => isTrue trivial

instance (b : Buffer) : ∀ c, Decidable (b.RoomToSlide c)
  | .member op => inferInstanceAs (Decidable (∀ call ∈ b.makeSpaceCall op,
      call.1.Slides call.2 → kCheapPrepend ≤ call.1.writableBytes))
  | .prepend _ => isTrue trivial
  | .hasWritten _ => isTrue trivial

/-! ## One call -/

section
variable {b : Buffer}

/-- `makeSpace` that has room to slide leaves the room it was asked for, or `resize` refuses. -/
lemma InBounds.makeSpace_safe (h : b.InBounds) {len : ℕ} (hrange : b.writerIndex_ + len < 2 ^ 64)
    (hroom : b.Slides len → kCheapPrepend ≤ b.writableBytes) :
    b.makeSpace len = .error .lengthError ∨
      ∃ b', b.makeSpace len = .ok b' ∧ b'.InBounds ∧ b'.writerIndex_ + len ≤ b'.buffer_.length := by
  by_cases hs : b.Slides len
  · obtain ⟨b', hmake, hwf, hlen⟩ := h.makeSpace_slide hs (hroom hs)
    exact Or.inr ⟨b', hmake, hwf.inBounds, hlen⟩
  · by_cases hfit : b.writerIndex_ + len ≤ maxSize
    · obtain ⟨v, hmake, hin, -, hlen⟩ := h.makeSpace_spec hs hfit
      exact Or.inr ⟨_, hmake, hin, hlen⟩
    · exact Or.inl (h.makeSpace_refused hs hrange hfit)

lemma InBounds.append_safe (h : b.InBounds) {data : Bytes}
    (hrange : b.writerIndex_ + data.length < 2 ^ 64)
    (hroom : b.Slides data.length → kCheapPrepend ≤ b.writableBytes) :
    b.append data = .error .lengthError ∨ ∃ b', b.append data = .ok b' ∧ b'.InBounds := by
  rcases h.makeSpace_safe hrange hroom with hmake | ⟨b₁, hmake, hin, hlen⟩
  · exact Or.inl (by rw [append, hmake, except_error_bind])
  · obtain ⟨b', happend, hin', -, -⟩ := append_of_makeSpace hmake hin hlen
    exact Or.inr ⟨b', happend, hin'⟩

lemma InBounds.append_tight (h : b.InBounds) {data : Bytes} (hs : b.Slides data.length)
    (htight : b.writableBytes < kCheapPrepend) : b.append data = .error .outOfBounds := by
  rw [append, h.makeSpace_tight hs htight, except_error_bind]

/-- `prepend` writes between the new reader and the old one. -/
lemma InBounds.prepend_spec (h : b.InBounds) {data : Bytes}
    (hpre : data.length ≤ b.prependableBytes) :
    ∃ b', b.prepend data = .ok b' ∧ b'.InBounds ∧ b'.readable = data ++ b.readable := by
  have ho := h.order
  have hi := h.inside
  have hm := h.lt_modulus
  have hpre' := hpre
  rw [h.prependableBytes_eq] at hpre'
  have hsub : SizeT.sub b.readerIndex_ data.length = b.readerIndex_ - data.length :=
    SizeT.sub_of_le hpre' (by omega)
  have hback : b.readerIndex_ - data.length + data.length = b.readerIndex_ :=
    Nat.sub_add_cancel hpre'
  have hcopy : copyIn b.buffer_ (b.readerIndex_ - data.length) data = .ok _ :=
    if_pos (by omega)
  rw [hback] at hcopy
  have hlen : (b.buffer_.take (b.readerIndex_ - data.length) ++ data ++
      b.buffer_.drop b.readerIndex_).length = b.buffer_.length := by
    simp only [List.length_append, List.length_take, List.length_drop]
    omega
  -- from the new reader on the vector holds the data, and then what it held before
  have hdrop : (b.buffer_.take (b.readerIndex_ - data.length) ++ data ++
      b.buffer_.drop b.readerIndex_).drop (b.readerIndex_ - data.length)
        = data ++ b.buffer_.drop b.readerIndex_ := by
    rw [List.append_assoc, List.drop_append_of_le_length (by rw [List.length_take]; omega),
      List.drop_of_length_le (by rw [List.length_take]; omega), List.nil_append]
  generalize b.buffer_.take (b.readerIndex_ - data.length) ++ data ++
    b.buffer_.drop b.readerIndex_ = v at hcopy hlen hdrop
  have hin : InBounds ⟨v, b.readerIndex_ - data.length, b.writerIndex_⟩ :=
    ⟨le_of_le_of_eq h.front hlen.symm, le_trans (Nat.sub_le _ _) ho,
      le_of_le_of_eq hi hlen.symm, le_of_eq_of_le hlen h.bounded⟩
  refine ⟨_, ?_, hin, ?_⟩
  · simp only [prepend, assertThat_pos hpre, hsub, hcopy, except_ok_bind]
    rfl
  · have hcount : b.writerIndex_ - (b.readerIndex_ - data.length)
        = data.length + (b.writerIndex_ - b.readerIndex_) := by omega
    simp only [readable, hdrop, hcount, List.take_length_add_append]

lemma InBounds.hasWritten_spec (h : b.InBounds) {len : ℕ} (hpre : len ≤ b.writableBytes) :
    ∃ b', b.hasWritten len = .ok b' ∧ b'.InBounds := by
  have ho := h.order
  have hi := h.inside
  have hm := h.lt_modulus
  have hle := hpre
  rw [h.writableBytes_eq] at hle
  have hadd : SizeT.add b.writerIndex_ len = b.writerIndex_ + len := SizeT.add_of_lt (by omega)
  refine ⟨{ b with writerIndex_ := b.writerIndex_ + len }, ?_,
    ⟨h.front, by simp only; omega, by simp only; omega, h.bounded⟩⟩
  simp only [hasWritten, assertThat_pos hpre, hadd, except_ok_bind]
  rfl

/-- A call with room to slide keeps the indices inside the vector, or asks `resize` for too
much. -/
lemma InBounds.call_safe (h : b.InBounds) {c : BufferCall} (hpre : b.CallPre c)
    (hrange : b.InRange c) (hroom : b.RoomToSlide c) :
    b.call c = .error .lengthError ∨
      ∃ b', b.call c = .ok b' ∧ b'.InBounds ∧
        ∀ len, c = .member (.makeSpace len) → b'.writerIndex_ + len ≤ b'.buffer_.length := by
  cases c with
  | prepend data =>
    obtain ⟨b', heq, hin, -⟩ := h.prepend_spec hpre
    exact Or.inr ⟨b', heq, hin, fun _ hc => by cases hc⟩
  | hasWritten len =>
    obtain ⟨b', heq, hin⟩ := h.hasWritten_spec hpre
    exact Or.inr ⟨b', heq, hin, fun _ hc => by cases hc⟩
  | member op =>
    cases op with
    | append data =>
      rcases h.append_safe (hrange _ rfl) (hroom _ rfl) with heq | ⟨b', heq, hin⟩
      · exact Or.inl (by rw [call, apply, heq]; rfl)
      · exact Or.inr ⟨b', by rw [call, apply, heq]; rfl, hin, fun _ hc => by cases hc⟩
    | retrieve len =>
      obtain ⟨b', heq, hin, -⟩ := h.retrieve_spec hpre
      exact Or.inr ⟨b', by rw [call, apply, heq]; rfl, hin, fun _ hc => by cases hc⟩
    | retrieveUntil len =>
      obtain ⟨b', heq, hin, -⟩ := h.retrieveUntil_spec hpre
      exact Or.inr ⟨b', by rw [call, apply, heq]; rfl, hin, fun _ hc => by cases hc⟩
    | retrieveAll =>
      exact Or.inr ⟨b.retrieveAll, rfl, (retrieveAll_wf h).inBounds, fun _ hc => by cases hc⟩
    | retrieveAsString =>
      refine Or.inr ⟨b.retrieveAll, ?_, (retrieveAll_wf h).inBounds, fun _ hc => by cases hc⟩
      rw [call, apply, h.retrieveAsString_spec]
      rfl
    | makeSpace len =>
      rcases h.makeSpace_safe (hrange _ rfl) (hroom _ rfl) with heq | ⟨b', heq, hin, hlen⟩
      · exact Or.inl (by rw [call, apply, heq]; rfl)
      · refine Or.inr ⟨b', by rw [call, apply, heq]; rfl, hin, fun len' hc => ?_⟩
        cases hc
        exact hlen
    | readFd result =>
      cases result with
      | none => exact Or.inr ⟨b, rfl, h, fun _ hc => by cases hc⟩
      | some data =>
        by_cases hle : data.length ≤ b.writableBytes
        · obtain ⟨b', heq, hin, -⟩ := h.readFd_fits hle
          exact Or.inr ⟨b', by rw [call, apply, heq]; rfl, hin, fun _ hc => by cases hc⟩
        · -- what spills is appended to the full vector
          obtain ⟨v, hv, hfull, -, hspill⟩ := h.readFd_spills hle
          have hdrop : (data.drop b.writableBytes).length = data.length - b.writableBytes :=
            List.length_drop
          have hrange' : v.length + (data.drop b.writableBytes).length < 2 ^ 64 := by
            rw [hdrop, hv]
            exact hrange _ (if_neg hle)
          have happend := hfull.append_safe hrange' (by
            rw [hdrop, slides_congr hv, hv, writableBytes_congr hv]
            exact hroom _ (if_neg hle))
          rw [← hspill] at happend
          rcases happend with heq | ⟨b', heq, hin⟩
          · exact Or.inl (by rw [call, apply, heq]; rfl)
          · exact Or.inr ⟨b', by rw [call, apply, heq]; rfl, hin, fun _ hc => by cases hc⟩

/-- A call without room to slide writes past the end. -/
lemma InBounds.call_tight (h : b.InBounds) {c : BufferCall} (hroom : ¬b.RoomToSlide c) :
    b.call c = .error .outOfBounds := by
  cases c with
  | prepend data => exact absurd trivial hroom
  | hasWritten len => exact absurd trivial hroom
  | member op =>
    simp only [RoomToSlide, not_forall, not_le] at hroom
    obtain ⟨⟨b₀, len₀⟩, hcall, hs, htight⟩ := hroom
    cases op with
    | append data =>
      cases hcall
      rw [call, apply, h.append_tight hs htight]
      rfl
    | makeSpace len =>
      cases hcall
      rw [call, apply, h.makeSpace_tight hs htight]
      rfl
    | readFd result =>
      cases result with
      | none => cases hcall
      | some data =>
        by_cases hle : data.length ≤ b.writableBytes
        · rw [makeSpaceCall, if_pos hle] at hcall
          cases hcall
        · rw [makeSpaceCall, if_neg hle] at hcall
          cases hcall
          obtain ⟨v, hv, hfull, -, hspill⟩ := h.readFd_spills hle
          rw [← List.length_drop, ← slides_congr hv, ← hv] at hs
          rw [← writableBytes_congr hv, ← hv] at htight
          rw [call, apply, hspill, hfull.append_tight hs htight]
          rfl
    | retrieve | retrieveUntil | retrieveAll | retrieveAsString => cases hcall

end

/-! ## Runs -/

/-- Any number of buffers under any sequence of calls. -/
def pool (ι : Type) [DecidableEq ι] : Machine (ι → Buffer) (PoolCall ι) Fault where
  allowed s
    | .on i c => (s i).CallPre c ∧ (s i).InRange c
    | .swap _ _ => True
  exec s
    | .on i c => do
      let b ← (s i).call c
      return Function.update s i b
    | .swap i j =>
      let (b, rhs) := (s i).swap (s j)
      return Function.update (Function.update s i b) j rhs

section
variable {ι : Type} [DecidableEq ι]

instance (s : ι → Buffer) : ∀ c, Decidable ((pool ι).allowed s c)
  | .on i c => inferInstanceAs (Decidable ((s i).CallPre c ∧ (s i).InRange c))
  | .swap _ _ => isTrue trivial

/-- The call has room to slide. -/
def HasRoom (s : ι → Buffer) : PoolCall ι → Prop
  | .on i c => (s i).RoomToSlide c
  | .swap _ _ => True

instance (s : ι → Buffer) : ∀ c, Decidable (HasRoom s c)
  | .on i c => inferInstanceAs (Decidable ((s i).RoomToSlide c))
  | .swap _ _ => isTrue trivial

/-- The call writes inside the vectors, leaves all indices in order and `makeSpace(len)` leaves
`len` bytes behind the write index. The one exception is that of a vector that cannot grow. -/
def Safe (s : ι → Buffer) (c : PoolCall ι) : Prop :=
  (pool ι).exec s c = .error .lengthError ∨
    ∃ s', (pool ι).exec s c = .ok s' ∧
      (∀ i, (s' i).readerIndex_ ≤ (s' i).writerIndex_ ∧
        (s' i).writerIndex_ ≤ (s' i).buffer_.length) ∧
      ∀ i len, c = .on i (.member (.makeSpace len)) →
        (s' i).buffer_.length - (s' i).writerIndex_ ≥ len

/-- A call that has room to slide keeps every buffer in bounds. -/
lemma exec_safe {s : ι → Buffer} (h : ∀ i, (s i).InBounds) {c : PoolCall ι}
    (hallowed : (pool ι).allowed s c) (hroom : HasRoom s c) :
    (pool ι).exec s c = .error .lengthError ∨
      ∃ s', (pool ι).exec s c = .ok s' ∧ (∀ i, (s' i).InBounds) ∧
        ∀ i len, c = .on i (.member (.makeSpace len)) →
          (s' i).writerIndex_ + len ≤ (s' i).buffer_.length := by
  have hupdate : ∀ {s : ι → Buffer} (i : ι) {b : Buffer}, (∀ j, (s j).InBounds) → b.InBounds →
      ∀ j, (Function.update s i b j).InBounds := by
    intro s i b hs hb j
    rcases eq_or_ne j i with rfl | hne
    · rwa [Function.update_self]
    · rw [Function.update_of_ne hne]
      exact hs j
  cases c with
  | swap i j => exact Or.inr ⟨_, rfl, hupdate j (hupdate i h (h j)) (h i), fun _ _ => nofun⟩
  | on i c =>
    rcases (h i).call_safe hallowed.1 hallowed.2 hroom with heq | ⟨b', heq, hin, hlen⟩
    · exact Or.inl (by simp only [pool, heq, except_error_bind])
    · refine Or.inr ⟨Function.update s i b', ?_, hupdate i h hin, ?_⟩
      · simp only [pool, heq, except_ok_bind]
        rfl
      · rintro i' len ⟨⟩
        rw [Function.update_self]
        exact hlen len rfl

lemma exec_tight {s : ι → Buffer} (h : ∀ i, (s i).InBounds) {c : PoolCall ι}
    (hroom : ¬HasRoom s c) : (pool ι).exec s c = .error .outOfBounds := by
  cases c with
  | swap i j => exact absurd trivial hroom
  | on i c => simp only [pool, (h i).call_tight hroom, except_error_bind]

/-- A call is safe iff it has room to slide. -/
lemma safe_iff_hasRoom {s : ι → Buffer} (h : ∀ i, (s i).InBounds) {c : PoolCall ι}
    (hallowed : (pool ι).allowed s c) : HasRoom s c ↔ Safe s c := by
  constructor
  · intro hroom
    rcases exec_safe h hallowed hroom with heq | ⟨s', heq, hin, hlen⟩
    · exact Or.inl heq
    · refine Or.inr ⟨s', heq, fun i => ⟨(hin i).order, (hin i).inside⟩, fun i len hc => ?_⟩
      have := hlen i len hc
      omega
  · intro hsafe
    by_contra hroom
    have heq := exec_tight h hroom
    rcases hsafe with hsafe | ⟨s', hsafe, -⟩
    · rw [heq] at hsafe
      cases hsafe
    · rw [heq] at hsafe
      cases hsafe

/-- **Every call of a run from fresh buffers is safe iff every call has room to slide.** -/
theorem pool_safe_iff (calls : List (PoolCall ι))
    (hallowed : (pool ι).AllSteps (pool ι).allowed (fun _ => fresh) calls) :
    (pool ι).AllSteps HasRoom (fun _ => fresh) calls ↔
      (pool ι).AllSteps Safe (fun _ => fresh) calls := by
  refine Machine.AllSteps.iff_of_invariant (I := fun s => ∀ i, (s i).InBounds) ?_
    (fun s c hin hc => safe_iff_hasRoom hin hc) (fun _ => fresh_wf.inBounds) hallowed
  intro s c s' hin hc hexec
  -- a call without room does not return
  by_cases hroom : HasRoom s c
  · rcases exec_safe hin hc hroom with heq | ⟨s₁, heq, hin', -⟩
    · rw [hexec] at heq
      cases heq
    · rw [hexec, Except.ok.injEq] at heq
      rwa [heq]
  · rw [exec_tight hin hroom] at hexec
    cases hexec

end

/-- Two buffers: one prepends, reads past its end and slides, the other takes its contents. -/
theorem pool_safe_two :
    (pool Bool).AllSteps Safe (fun _ => fresh)
      [.on true (.member (.append (List.replicate 1000 1))), .on true (.prepend [7, 7, 7]),
        .on true (.member (.retrieve 103)), .on true (.member (.makeSpace 110)),
        .on true (.hasWritten 50), .swap true false,
        .on false (.member (.readFd (some (List.replicate 300 2)))),
        .on true (.member (.makeSpace 2000))] :=
  (pool_safe_iff _ (by decide +kernel)).mp (by decide +kernel)

/-- One buffer in which 4 bytes are writable, and room for 100 more in front. -/
def tightRun : List (PoolCall Unit) :=
  [.on () (.member (.append (List.replicate 1020 1))), .on () (.member (.retrieve 100))]

/-- The third call respects all preconditions: 10 bytes are to be appended, and `makeSpace` copies
1028 bytes to offset 8 of a vector of 1032. -/
theorem pool_not_safe :
    ¬∀ calls : List (PoolCall Unit),
      (pool Unit).AllSteps (pool Unit).allowed (fun _ => fresh) calls →
        (pool Unit).AllSteps Safe (fun _ => fresh) calls := by
  intro h
  have hsafe := h (tightRun ++ [.on () (.member (.append (List.replicate 10 2)))])
    (by decide +kernel)
  obtain ⟨s, hrun, hs⟩ := Machine.Run.of_replay_map (pool Unit) (fun _ => fresh) tightRun
    (fun s => decide ((s ()).apply (.append (List.replicate 10 2)) = .error .outOfBounds))
    (by decide +kernel)
  have heq : (pool Unit).exec s (.on () (.member (.append (List.replicate 10 2))))
      = .error .outOfBounds := by
    simp only [pool, call, of_decide_eq_true hs, except_error_bind]
  rcases Machine.AllSteps.last hrun hsafe with hlast | ⟨s', hlast, -⟩
  · rw [heq] at hlast
    cases hlast
  · rw [heq] at hlast
    cases hlast

end Buffer
end Miniduo
