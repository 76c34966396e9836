import Miniduo.Logging

/-!
# What reaches the log

The bytes written are a prefix of the records in the order of their appends, and nothing that was
appended in front of the destructor is left behind, as long as the destructor finds the backend
waiting or its records already taken (`faithful_of_drains`). A destructor that comes while the
backend writes loses what was appended meanwhile (`not_faithful`).
-/

namespace Miniduo

/-- The bytes that the backend has taken and not yet written. -/
def Backend.left : Backend → Bytes
  | .writing buf _ => buf
  | _ => []

namespace Logger

/-- What was written, and what a destructor that has returned leaves behind. -/
structure Faithful (l : Logger) : Prop where
  order : l.written <+: l.appended.flatten
  complete : l.dtor = .returned → (l.appended.take l.before).flatten <+: l.written

/-- When the destructor sets the flag, the backend is in the inner loop or has taken all records
that were appended in front of the destructor; and a batch's size is an `int`. -/
def Drains (l : Logger) : Action → Prop
  | .stop => l.backend = .waiting ∨ l.before ≤ l.taken
  | .swap => l.msg_.length < 2 ^ 31
  | _ => True

/-- Bytes move from `msg_` through the backend to the file. -/
structure Inv (l : Logger) : Prop where
  bytes : l.written ++ l.backend.left ++ l.msg_ = l.appended.flatten
  tosend : ∀ buf tosend, l.backend = .writing buf tosend → tosend = buf.length
  queued : l.msg_ = (l.appended.drop l.taken).flatten
  taken : l.taken ≤ l.appended.length
  before : l.before ≤ l.appended.length
  stopping : l.dtor = .joining ∨ l.dtor = .returned →
    l.backend = .waiting ∨ l.before ≤ l.taken
  joined : l.dtor = .returned → l.backend = .returned

section
variable {l l' : Logger}

lemma toInt_length {b : Bytes} (h : b.length < 2 ^ 31) : toInt b.length = b.length := by
  unfold toInt
  omega

lemma Inv.append (h : l.Inv) (timeNow tid msg : Bytes) : (l.append timeNow tid msg).Inv := by
  have hbytes := h.bytes
  have hqueued := h.queued
  have htaken := h.taken
  have hbefore := h.before
  refine ⟨?_, h.tosend, ?_, ?_, ?_, h.stopping, h.joined⟩
  · show l.written ++ l.backend.left ++ (l.msg_ ++ _) = (l.appended ++ [_]).flatten
    rw [← List.append_assoc, hbytes, List.flatten_append, List.flatten_singleton]
  · show l.msg_ ++ _ = ((l.appended ++ [_]).drop l.taken).flatten
    rw [List.drop_append_of_le_length htaken, List.flatten_append, List.flatten_singleton, hqueued]
  · show l.taken ≤ (l.appended ++ [_]).length
    rw [List.length_append]
    omega
  · show l.before ≤ (l.appended ++ [_]).length
    rw [List.length_append]
    omega

lemma Inv.swap (h : l.Inv) (hwaiting : l.backend = .waiting) (hsize : l.msg_.length < 2 ^ 31) :
    l.swap.Inv := by
  refine ⟨?_, ?_, ?_, le_refl _, h.before, fun _ => Or.inr h.before, fun hreturned => ?_⟩
  · have hbytes := h.bytes
    rw [hwaiting] at hbytes
    show l.written ++ l.msg_ ++ [] = l.appended.flatten
    rw [List.append_nil, ← hbytes]
    simp [Backend.left]
  · intro buf tosend heq
    cases heq
    exact toInt_length hsize
  · show [] = (l.appended.drop l.appended.length).flatten
    rw [List.drop_length]
    rfl
  · have := h.joined hreturned
    rw [hwaiting] at this
    cases this

lemma Inv.write (h : l.Inv) {ret : ℤ} (hallowed : l.allowed (.write ret)) : (l.write ret).Inv := by
  unfold Logger.allowed at hallowed
  unfold Logger.write
  cases hbackend : l.backend with
  | writing buf tosend =>
    simp only [hbackend] at hallowed ⊢
    by_cases hret : ret > 0
    · rw [if_pos hret]
      -- what is written leaves the front of `buf`
      have htosend := h.tosend buf tosend hbackend
      refine ⟨?_, ?_, h.queued, h.taken, h.before, fun hdtor => ?_, fun hreturned => ?_⟩
      · have hbytes := h.bytes
        rw [hbackend] at hbytes
        show l.written ++ buf.take ret.toNat ++ buf.drop ret.toNat ++ l.msg_ = _
        rw [List.append_assoc l.written, List.take_append_drop]
        exact hbytes
      · intro buf' tosend' heq
        cases heq
        rw [List.length_drop]
        omega
      · exact Or.inr ((h.stopping hdtor).resolve_left (by simp [hbackend]))
      · have := h.joined hreturned
        rw [hbackend] at this
        cases this
    · rw [if_neg hret]
      exact h
  | _ => simp only [hbackend] at hallowed

/-- The backend goes on without touching any bytes. -/
lemma Inv.move (h : l.Inv) {backend : Backend} (hleft : l.backend.left = backend.left)
    (hwriting : ∀ buf tosend, backend ≠ .writing buf tosend)
    (hstop : l.dtor = .joining ∨ l.dtor = .returned → l.before ≤ l.taken ∨ backend = .waiting)
    (hjoined : l.dtor ≠ .returned) : ({ l with backend := backend } : Logger).Inv := by
  refine ⟨?_, fun buf tosend heq => absurd heq (hwriting buf tosend), h.queued, h.taken, h.before,
    fun hdtor => (hstop hdtor).symm, fun hreturned => absurd hreturned hjoined⟩
  show l.written ++ backend.left ++ l.msg_ = _
  rw [← hleft]
  exact h.bytes

lemma Inv.step (h : l.Inv) {a : Action} (hdrains : l.Drains a) (hallowed : l.allowed a)
    (hexec : l.exec a = .ok l') : l'.Inv := by
  -- once the destructor has returned, the backend does not move
  have hlives : l.backend ≠ .returned → l.dtor ≠ .returned := fun hne hr => hne (h.joined hr)
  cases a with
  | append timeNow tid msg =>
    rw [← Except.ok.inj hexec]
    exact h.append timeNow tid msg
  | test =>
    have htop : l.backend = .top := hallowed
    rw [← Except.ok.inj hexec]
    refine h.move ?_ ?_ ?_ (hlives (by simp [htop]))
    · rw [htop]
      split <;> rfl
    · intro buf tosend
      split <;> simp
    · intro hdtor
      exact Or.inl ((h.stopping hdtor).resolve_left (by simp [htop]))
  | wait =>
    rw [← Except.ok.inj hexec]
    exact h
  | swap =>
    rw [← Except.ok.inj hexec]
    exact h.swap hallowed.1 hdrains
  | write ret =>
    rw [← Except.ok.inj hexec]
    exact h.write hallowed
  | endWrite =>
    rw [← Except.ok.inj hexec]
    unfold Logger.allowed at hallowed
    cases hbackend : l.backend with
    | writing buf tosend =>
      simp only [hbackend] at hallowed
      have htosend := h.tosend buf tosend hbackend
      have hempty : buf = [] := List.length_eq_zero_iff.mp (by omega)
      refine h.move ?_ (by simp) ?_ (hlives (by simp [hbackend]))
      · rw [hbackend]
        exact hempty
      · intro hdtor
        exact Or.inl ((h.stopping hdtor).resolve_left (by simp [hbackend]))
    | _ => simp only [hbackend] at hallowed
  | destroy =>
    have hdtor : l.dtor = .notCalled := hallowed
    rw [← Except.ok.inj hexec]
    exact ⟨h.bytes, h.tosend, h.queued, h.taken, le_refl _, fun hd => by simp at hd,
      fun hr => by simp at hr⟩
  | stop =>
    have hdtor : l.dtor = .called := hallowed
    rw [← Except.ok.inj hexec]
    exact ⟨h.bytes, h.tosend, h.queued, h.taken, h.before, fun _ => hdrains, fun hr => by simp at hr⟩
  | join =>
    rw [← Except.ok.inj hexec]
    exact ⟨h.bytes, h.tosend, h.queued, h.taken, h.before, fun _ => h.stopping (Or.inl hallowed.1),
      fun _ => hallowed.2⟩

lemma Inv.faithful (h : l.Inv) : l.Faithful := by
  have hbytes := h.bytes
  rw [List.append_assoc] at hbytes
  refine ⟨⟨_, hbytes⟩, fun hreturned => ?_⟩
  have hbackend := h.joined hreturned
  have hbefore : l.before ≤ l.taken :=
    (h.stopping (Or.inr hreturned)).resolve_left (by simp [hbackend])
  -- nothing is left in the backend, so all that was taken has been written
  have hwritten : l.written = (l.appended.take l.taken).flatten := by
    have hsplit : (l.appended.take l.taken).flatten ++ (l.appended.drop l.taken).flatten =
        l.appended.flatten := by rw [← List.flatten_append, List.take_append_drop]
    rw [hbackend, ← hsplit, h.queued] at hbytes
    exact List.append_cancel_right hbytes
  rw [hwritten]
  have htake : l.appended.take l.taken = l.appended.take l.before ++
      (l.appended.take l.taken).drop l.before := by
    conv_lhs => rw [← List.take_append_drop l.before (l.appended.take l.taken)]
    rw [List.take_take, Nat.min_eq_left hbefore]
  rw [htake, List.flatten_append]
  exact List.prefix_append _ _

end

/-! ## Runs -/

/-- **Nothing is lost, torn or repeated** in every run in which the destructor finds the backend in
its inner loop or with nothing to take, and batches are smaller than `2 ^ 31` bytes. -/
theorem faithful_of_drains {l : Logger} {as : List Action} (hrun : machine.Run {} as l)
    (hdrains : machine.AllSteps Drains {} as) : l.Faithful := by
  refine Inv.faithful (hrun.invariant hdrains ?_ ?_)
  · refine ⟨rfl, ?_, rfl, le_refl _, le_refl _, ?_, ?_⟩
    · intro buf tosend heq
      cases heq
    · intro hd
      rcases hd with hd | hd <;> cases hd
    · intro hr
      cases hr
  · intro l a l' hI hd hallowed hexec
    exact hI.step hd hallowed hexec

instance (l : Logger) : ∀ a, Decidable (l.Drains a)
  | .stop => inferInstanceAs (Decidable (_ ∨ _ ≤ _))
  | .swap => inferInstanceAs (Decidable (_ < _))
  | .append .. | .test | .wait | .write _ | .endWrite | .destroy | .join => isTrue trivial

/-- The record of one byte that the runs below append. -/
def appendByte (b : Byte) : Action := .append [] [] [b]

/-- The destructor is called while the backend waits behind a record that was written in parts. -/
def stopWaiting : List Action :=
  [appendByte 97, .test, .swap, .write 2, .write (-1), .write 4, .endWrite, .test, appendByte 98,
    .destroy, .stop, .swap, .write 6, .endWrite, .test, .join]

theorem faithful_stopWaiting : ∃ l, machine.Run {} stopWaiting l ∧ l.dtor = .returned ∧
    l.Faithful := by
  obtain ⟨l, hrun, hl⟩ := Machine.Run.of_replay_map machine {} stopWaiting
    (fun l => decide (l.dtor = .returned)) (by decide +kernel)
  exact ⟨l, hrun, of_decide_eq_true hl, faithful_of_drains hrun (by decide +kernel)⟩

/-- The destructor is called while the backend writes one record and another has been appended. -/
def stopWriting : List Action :=
  [appendByte 97, .test, .swap, appendByte 98, .destroy, .stop, .write 6, .endWrite, .test, .join]

/-- The second record is never written. -/
theorem not_faithful : ¬∀ (as : List Action) (l : Logger), machine.Run {} as l → l.Faithful := by
  intro h
  obtain ⟨l, hrun, hl⟩ := Machine.Run.of_replay_map machine {} stopWriting
    (fun l => decide (l.dtor = .returned ∧
      l.written.length < (l.appended.take l.before).flatten.length)) (by decide +kernel)
  obtain ⟨hreturned, hlt⟩ := of_decide_eq_true hl
  have := ((h _ _ hrun).complete hreturned).length_le
  omega

end Logger
end Miniduo
