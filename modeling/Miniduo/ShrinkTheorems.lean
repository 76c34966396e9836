import Miniduo.BoundsTheorems

/-!
# `Buffer::shrink`

`shrink` moves the readable bytes to `kCheapPrepend` of a new vector, and leaves `readerIndex_` and
`writerIndex_` where they were. It returns iff they describe the data in its new place already.
-/

namespace Miniduo

/-- The calls made after `shrink`. -/
def BufferOp.AppendOrRetrieve : BufferOp → Prop
  | .append _ => True
  | .retrieve _ => True
  | _ => False

/-- The calls made before `shrink`. -/
def BufferCall.BeforeShrink : BufferCall → Prop
  | .member (.append _) => True
  | .member (.retrieve _) => True
  | .member (.retrieveUntil _) => True
  | .prepend _ => True
  | _ => False

namespace Buffer

/-- One buffer under any sequence of calls. -/
def members : Machine Buffer BufferCall Fault where
  allowed b c := b.CallPre c ∧ b.InRange c
  exec := call

instance (b : Buffer) (c : BufferCall) : Decidable (members.allowed b c) :=
  inferInstanceAs (Decidable (b.CallPre c ∧ b.InRange c))

/-- The buffer is what calls of `append`, `retrieve`, `retrieveUntil` and `prepend` leave. -/
def Reachable (b : Buffer) : Prop :=
  ∃ calls, (∀ c ∈ calls, BufferCall.BeforeShrink c) ∧ members.Run fresh calls b

/-- Both buffers answer the calls alike, and are left with the same readable bytes. -/
def SameBehaviour (b b' : Buffer) (ops : List BufferOp) : Prop :=
  ∃ c c' out, Refinement.run apply b ops = .ok (c, out) ∧
    Refinement.run apply b' ops = .ok (c', out) ∧ c.readable = c'.readable

/-- `shrink(reserve)` returns, keeps the content, leaves `reserve` writable bytes, and nobody
notices it later. -/
def ShrinkPreserves (b : Buffer) (reserve : ℕ) (ops : List BufferOp) : Prop :=
  ∃ b', b.shrink reserve = .ok b' ∧ b'.readable = b.readable ∧
    (b'.readerIndex_ ≤ b'.writerIndex_ ∧ b'.writerIndex_ ≤ b'.buffer_.length) ∧
    b'.writableBytes = reserve ∧ SameBehaviour b b' ops

/-- A call that returns keeps the indices inside the vector. -/
lemma members_inBounds {b b' : Buffer} {c : BufferCall} (h : b.InBounds)
    (hallowed : members.allowed b c) (hexec : members.exec b c = .ok b') : b'.InBounds := by
  have hcall : b.call c = .ok b' := hexec
  by_cases hroom : b.RoomToSlide c
  · rcases h.call_safe hallowed.1 hallowed.2 hroom with heq | ⟨b₁, heq, hin, -⟩
    · rw [hcall] at heq
      cases heq
    · rw [hcall, Except.ok.injEq] at heq
      rwa [heq]
  · rw [h.call_tight hroom] at hcall
    cases hcall

lemma Reachable.inBounds {b : Buffer} (h : b.Reachable) : b.InBounds := by
  obtain ⟨calls, -, hrun⟩ := h
  exact hrun.preserves fresh_wf.inBounds
    fun _ _ _ hin hallowed hexec => members_inBounds hin hallowed hexec

section
variable {b : Buffer}

/-! ## When `shrink` returns -/

/-- With the reader at `kCheapPrepend` the indices fit the new vector too. -/
lemma InBounds.shrink_spec (h : b.InBounds) {reserve : ℕ}
    (hreader : b.readerIndex_ = kCheapPrepend)
    (hfit : kCheapPrepend + b.readableBytes + reserve ≤ maxSize) :
    ∃ b', b.shrink reserve = .ok b' ∧ b'.InBounds ∧ b'.readable = b.readable ∧
      b'.writableBytes = reserve := by
  have ho := h.order
  have hi := h.inside
  have hm := h.lt_modulus
  have hk : kCheapPrepend = 8 := rfl
  have hmax : maxSize < 2 ^ 64 := by norm_num [maxSize]
  have hread : b.readableBytes = b.writerIndex_ - b.readerIndex_ := h.readableBytes_eq
  have hsize : SizeT.add (SizeT.add kCheapPrepend b.readableBytes) reserve
      = kCheapPrepend + b.readableBytes + reserve := by
    rw [SizeT.add_of_lt (a := kCheapPrepend) (by omega), SizeT.add_of_lt (by omega)]
  have hdata : copyOut b.buffer_ b.readerIndex_ (b.readerIndex_ + b.readableBytes)
      = .ok b.readable := by
    rw [copyOut, if_pos (by omega), readable, hread, Nat.add_sub_cancel_left]
  have hlen : b.readable.length = b.readableBytes := h.length_readable
  have hcopy : copyIn (List.replicate (kCheapPrepend + b.readableBytes + reserve) 0) kCheapPrepend
      b.readable = .ok (List.replicate kCheapPrepend 0 ++ b.readable ++
        List.replicate reserve 0) := by
    rw [copyIn, if_pos (by rw [List.length_replicate]; omega), List.take_replicate,
      List.drop_replicate, hlen, Nat.min_eq_left (by omega), Nat.add_sub_cancel_left]
  have hvlen : (List.replicate kCheapPrepend (0 : Byte) ++ b.readable ++
      List.replicate reserve 0).length = kCheapPrepend + b.readableBytes + reserve := by
    simp only [List.length_append, List.length_replicate, hlen]
  -- the reader stands in front of the bytes that were moved
  have hdrop : (List.replicate kCheapPrepend (0 : Byte) ++ b.readable ++
      List.replicate reserve 0).drop b.readerIndex_ = b.readable ++ List.replicate reserve 0 := by
    rw [List.append_assoc, List.drop_left' (by rw [List.length_replicate, hreader])]
  generalize List.replicate kCheapPrepend 0 ++ b.readable ++ List.replicate reserve 0 = v
    at hcopy hvlen hdrop
  have hin : InBounds { b with buffer_ := v } :=
    ⟨by simp only; omega, ho, by simp only; omega, by simp only; omega⟩
  have hwritable : writableBytes { b with buffer_ := v } = reserve := by
    rw [hin.writableBytes_eq]
    simp only
    omega
  refine ⟨_, ?_, hin, ?_, hwritable⟩
  · simp only [shrink, hsize, resize, if_pos hfit, hdata, except_ok_bind, List.take_nil,
      List.nil_append, List.length_nil, Nat.sub_zero, hcopy, assertThat_pos hwritable]
    rfl
  · rw [readable]
    simp only [hdrop]
    rw [← hread, List.take_left' hlen]

/-- `shrink` returns only then: elsewhere its own assertion fails, and where the size wraps, the
copy runs past the end of the vector that is too small. -/
lemma InBounds.shrink_ok (h : b.InBounds) {reserve : ℕ} {b' : Buffer}
    (hshrink : b.shrink reserve = .ok b') :
    b.readerIndex_ = kCheapPrepend ∧ kCheapPrepend + b.readableBytes + reserve ≤ maxSize := by
  have ho := h.order
  have hi := h.inside
  have hm := h.lt_modulus
  have hb := h.bounded
  have hread : b.readableBytes = b.writerIndex_ - b.readerIndex_ := h.readableBytes_eq
  have hk : kCheapPrepend = 8 := rfl
  have hsize : SizeT.add kCheapPrepend b.readableBytes = kCheapPrepend + b.readableBytes := by
    refine SizeT.add_of_lt ?_
    simp only [maxSize] at hb
    omega
  obtain ⟨buf, hbuf, hshrink⟩ := except_bind_eq_ok.mp hshrink
  obtain ⟨data, hdata, hshrink⟩ := except_bind_eq_ok.mp hshrink
  obtain ⟨buf', hbuf', hshrink⟩ := except_bind_eq_ok.mp hshrink
  obtain ⟨_, hassert, -⟩ := except_bind_eq_ok.mp hshrink
  rw [assertThat_eq_ok] at hassert
  rw [resize] at hbuf
  split at hbuf
  · rename_i hmax
    rw [Except.ok.injEq, List.take_nil, List.nil_append, List.length_nil, Nat.sub_zero] at hbuf
    subst hbuf
    rw [copyOut] at hdata
    split at hdata
    · rename_i hrange
      have hlen : data.length = b.readableBytes := by
        rw [← Except.ok.inj hdata, List.length_take, List.length_drop]
        omega
      rw [copyIn, List.length_replicate, hlen] at hbuf'
      split at hbuf'
      · rename_i hfit
        -- the copy fitted, so the size did not wrap
        have hvlen : buf'.length = SizeT.add (SizeT.add kCheapPrepend b.readableBytes) reserve := by
          rw [← Except.ok.inj hbuf']
          simp only [List.length_append, List.length_take, List.length_drop,
            List.length_replicate, hlen]
          omega
        simp only [writableBytes, hvlen, SizeT.sub] at hassert
        rw [hsize] at hmax hfit hassert
        simp only [SizeT.add] at hmax hfit hassert
        constructor <;> omega
      · cases hbuf'
    · cases hdata
  · cases hbuf

/-! ## Afterwards -/

/-- What a call asks of the buffer it asks of the readable bytes. -/
lemma InBounds.pre_of_readable {b' : Buffer} (h : b.InBounds) (h' : b'.InBounds)
    (hread : b.readable = b'.readable) {op : BufferOp} (hkind : op.AppendOrRetrieve)
    (hpre : b.Pre op) : b'.Pre op := by
  cases op with
  | append data => trivial
  | retrieve len =>
    show len ≤ b'.readableBytes
    rw [← h'.length_readable, ← hread, h.length_readable]
    exact hpre
  | retrieveUntil | retrieveAll | retrieveAsString | makeSpace | readFd => exact hkind.elim

/-- Two buffers with the same readable bytes answer alike as long as neither slides its data. -/
lemma InBounds.sameBehaviour {ops : List BufferOp} :
    ∀ {b b' : Buffer}, b.InBounds → b'.InBounds → b.readable = b'.readable →
      (∀ op ∈ ops, op.AppendOrRetrieve) → Refinement.AllSteps Pre apply b ops →
      Refinement.AllSteps NoSlide apply b ops → Refinement.AllSteps NoSlide apply b' ops →
      SameBehaviour b b' ops := by
  induction ops with
  | nil => exact fun _ _ hread _ _ _ _ => ⟨_, _, [], rfl, rfl, hread⟩
  | cons op ops ih =>
    intro b b' h h' hread hkind hpre hs hs'
    have hop := hkind op List.mem_cons_self
    obtain ⟨b₁, happly, hin, -, hread₁⟩ := h.apply_refines hpre.1 hs.1
    obtain ⟨b₁', happly', hin', -, hread₁'⟩ :=
      h'.apply_refines (h.pre_of_readable h' hread hop hpre.1) hs'.1
    rw [← hread] at happly' hread₁'
    obtain ⟨c, c', out, hrun, hrun', hend⟩ := ih hin hin' (hread₁.trans hread₁'.symm)
      (fun op hmem => hkind op (List.mem_cons_of_mem _ hmem))
      (hpre.2 _ (Refinement.machine_exec_ok happly)) (hs.2 _ (Refinement.machine_exec_ok happly))
      (hs'.2 _ (Refinement.machine_exec_ok happly'))
    refine ⟨c, c', (ByteQueue.apply b.readable op).2 :: out, ?_, ?_, hend⟩
    · rw [Refinement.run_cons_ok happly, hrun]
      rfl
    · rw [Refinement.run_cons_ok happly', hrun']
      rfl

end

/-- **`shrink` preserves the content iff the reader stands at `kCheapPrepend`** and the size asked
for is one of a vector. Afterwards the buffers answer alike as long as neither slides its data. -/
theorem shrink_preserves_iff (b : Buffer) (hb : b.Reachable) (reserve : ℕ)
    (ops : List BufferOp) (hkind : ∀ op ∈ ops, op.AppendOrRetrieve)
    (hpre : Refinement.AllSteps Pre apply b ops) (hs : Refinement.AllSteps NoSlide apply b ops)
    (hs' : ∀ b', b.shrink reserve = .ok b' → Refinement.AllSteps NoSlide apply b' ops) :
    b.ShrinkPreserves reserve ops ↔
      b.readerIndex_ = kCheapPrepend ∧ kCheapPrepend + b.readableBytes + reserve ≤ maxSize := by
  have h := hb.inBounds
  constructor
  · rintro ⟨b', hshrink, -⟩
    exact h.shrink_ok hshrink
  · rintro ⟨hreader, hfit⟩
    obtain ⟨b', hshrink, hin, hread, hwritable⟩ := h.shrink_spec hreader hfit
    exact ⟨b', hshrink, hread, ⟨hin.order, hin.inside⟩, hwritable,
      h.sameBehaviour hin hread.symm hkind hpre hs (hs' b' hshrink)⟩

/-- Ten bytes, of which three were consumed and three others put in their place. -/
theorem shrink_preserves_prepended :
    ∃ b, Reachable b ∧ b.readable = [7, 7, 7, 1, 1, 1, 1, 1, 1, 1] ∧
      b.ShrinkPreserves 24 [.append [2, 2, 2], .retrieve 4, .append [3]] := by
  let ops : List BufferOp := [.append [2, 2, 2], .retrieve 4, .append [3]]
  let calls : List BufferCall :=
    [.member (.append (List.replicate 10 1)), .member (.retrieve 3), .prepend [7, 7, 7]]
  obtain ⟨b, hrun, hb⟩ := Machine.Run.of_replay_map members fresh calls
    (fun b => decide (b.readable = [7, 7, 7, 1, 1, 1, 1, 1, 1, 1] ∧
      Refinement.AllSteps Pre apply b ops ∧ Refinement.AllSteps NoSlide apply b ops ∧
      (∀ b' ∈ (b.shrink 24).toOption, Refinement.AllSteps NoSlide apply b' ops) ∧
      b.readerIndex_ = kCheapPrepend ∧ kCheapPrepend + b.readableBytes + 24 ≤ maxSize))
    (by decide +kernel)
  obtain ⟨hread, hpre, hs, hs', hcond⟩ := of_decide_eq_true hb
  have hreach : Reachable b := ⟨calls, by simp [calls, BufferCall.BeforeShrink], hrun⟩
  refine ⟨b, hreach, hread, ?_⟩
  refine (shrink_preserves_iff b hreach 24 ops ?_ hpre hs fun b' hb' => hs' b' ?_).mpr hcond
  · simp [ops, BufferOp.AppendOrRetrieve]
  · rw [hb']
    rfl

/-- Ten bytes, of which three were consumed. -/
def consumedRun : List BufferCall :=
  [.member (.append (List.replicate 10 1)), .member (.retrieve 3)]

/-- `shrink(0)` allocates 15 bytes for the seven that are left, while `writerIndex_` stays 18: the
assertion at its end fails. -/
theorem shrink_not_preserves :
    ¬∀ b : Buffer, b.Reachable → ∀ reserve < 2 ^ 64, ∀ ops : List BufferOp,
      (∀ op ∈ ops, op.AppendOrRetrieve) → Refinement.AllSteps Pre apply b ops →
        b.ShrinkPreserves reserve ops := by
  intro h
  obtain ⟨b, hrun, hb⟩ := Machine.Run.of_replay_map members fresh consumedRun
    (fun b => decide (b.shrink 0 = .error .assertFailed)) (by decide +kernel)
  have hreach : Reachable b := ⟨consumedRun, by simp [consumedRun, BufferCall.BeforeShrink], hrun⟩
  obtain ⟨b', hshrink, -⟩ := h b hreach 0 (by norm_num) [] (fun _ => nofun) trivial
  rw [of_decide_eq_true hb] at hshrink
  cases hshrink

end Buffer
end Miniduo
