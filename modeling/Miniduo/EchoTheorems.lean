import Miniduo.BufferTheorems
import Miniduo.ConversationTheorems

/-!
# The echo server

What has been put on the socket of a connection and what waits in its output buffer are the bytes
that were read from it, as long as no message slides the output buffer (`echoes_of_run`).
-/

namespace Miniduo

namespace Buffer

variable {b b' : Buffer}

lemma InBounds.retrieve_readable (h : b.InBounds) :
    b.retrieve b.readable.length = .ok b.retrieveAll := by
  have hall : b.readable.length = b.writerIndex_ - b.readerIndex_ := by
    rw [h.length_readable, h.readableBytes_eq]
  obtain ⟨hadd, -⟩ := h.advance b.readable.length (le_of_eq h.length_readable)
  have hend : b.readerIndex_ + b.readable.length = b.writerIndex_ := by
    have := h.order
    omega
  rw [retrieve, assertThat, if_pos (ge_of_eq h.length_readable.symm), except_ok_bind, hadd, hend,
    resetIfEmpty, if_pos rfl]
  rfl

lemma readable_retrieveAll : b.retrieveAll.readable = [] := by
  rw [readable, retrieveAll, Nat.sub_self, List.take_zero]

/-- While nothing has been taken out, `readFd` adds the bytes read. -/
lemma readFd_unread (h : b.WF) (hreader : b.readerIndex_ = kCheapPrepend) {data : Bytes}
    (hlen : data.length ≤ b.writableBytes + extraSize) (hread : b.readFd (some data) = .ok b') :
    b'.WF ∧ b'.readable = b.readable ++ data := by
  by_cases hfits : data.length ≤ b.writableBytes
  · obtain ⟨b₁, heq, hin, hreader', hreadable⟩ := h.inBounds.readFd_fits hfits
    obtain rfl := Except.ok.inj (heq.symm.trans hread)
    exact ⟨hin.wf (ge_of_eq (hreader'.trans hreader)), hreadable⟩
  · obtain ⟨v, hv, hin, hreadable, heq⟩ := h.inBounds.readFd_spills hfits
    have hextra : (data.drop b.writableBytes).length ≤ maxSize := by
      rw [List.length_drop, maxSize]
      simp only [extraSize] at hlen
      omega
    have happend := heq.symm.trans hread
    have hwf := hin.wf (ge_of_eq hreader)
    refine ⟨append_wf hwf hextra happend, ?_⟩
    have hslide := not_slides_unread (b := ⟨v, b.readerIndex_, v.length⟩) hreader
      (data.drop b.writableBytes).length
    rw [append_ok hwf hextra happend hslide, hreadable, List.append_assoc, List.take_append_drop]

end Buffer

namespace EchoServer

open Conversation (Meets)

/-- A message does not slide the output buffer. -/
def NoSlide (s : Conversation Unit) : Call → Prop
  | .send msg => ¬s.output_.Slides msg.length
  | _ => True

instance (s : Conversation Unit) : ∀ x, Decidable (NoSlide s x)
  | .send _ => inferInstanceAs (Decidable ¬_)
  | .retrieve _ | .close | .sendfile _ => isTrue trivial

/-- What has been read has been sent. -/
structure Echoes (s : Conversation Unit) : Prop where
  input : s.input_.WF
  unread : s.input_.readerIndex_ = Buffer.kCheapPrepend
  empty : s.input_.readable = []
  output : s.output_.WF
  echoed : s.socket ++ s.output_.readable = s.received

variable {s s' : Conversation Unit}

/-! ## Calls -/

/-- What the callback may have done of what it does with `data`. -/
lemma calls_cases {done rest : List Call} {data : Bytes} (h : done ++ rest = onMsg data) :
    done = [] ∨ done = [.retrieve data.length] ∨ (done = onMsg data ∧ rest = []) := by
  cases done with
  | nil => exact Or.inl rfl
  | cons x done =>
    cases done with
    | nil =>
      obtain ⟨rfl, -⟩ := List.cons.inj h
      exact Or.inr (Or.inl rfl)
    | cons y done =>
      simp only [EchoServer.onMsg, List.cons_append, List.cons.injEq, List.append_eq_nil_iff] at h
      obtain ⟨rfl, rfl, rfl, rfl⟩ := h
      exact Or.inr (Or.inr ⟨rfl, rfl⟩)

/-- The callback, on what `handleRead` has read. -/
lemma Echoes.onMsg {input : Buffer} {data : Bytes} (h : Echoes s) (hconnected : s.connected = true)
    (hwf : input.WF) (hreadable : input.readable = data)
    (hkeeps : { s with input_ := input, received := s.received ++ data }.Keeps NoSlide (onMsg data))
    (hcalls : { s with input_ := input, received := s.received ++ data }.calls (onMsg data) =
      .ok s') : Echoes s' := by
  obtain ⟨s₁, hretrieve, hcalls⟩ := except_bind_eq_ok.mp hcalls
  obtain ⟨hslide, -⟩ := hkeeps.2 _ hretrieve
  have hlen : data.length ≤ maxSize := by
    have := hwf.inside
    have := hwf.bounded
    rw [← hreadable, hwf.length_readable, hwf.inBounds.readableBytes_eq]
    omega
  obtain ⟨s₂, hsend, hcalls⟩ := except_bind_eq_ok.mp hcalls
  obtain rfl := Except.ok.inj hcalls
  have hinput : input.retrieve data.length = .ok input.retrieveAll := by
    rw [← hreadable]
    exact hwf.inBounds.retrieve_readable
  rw [Conversation.call, hinput] at hretrieve
  obtain rfl := Except.ok.inj hretrieve
  rw [Conversation.call, if_pos hconnected] at hsend
  obtain ⟨output, happend, hsend⟩ := except_bind_eq_ok.mp hsend
  obtain rfl := Except.ok.inj hsend
  exact {
    input := Buffer.retrieveAll_wf hwf.inBounds
    unread := rfl
    empty := Buffer.readable_retrieveAll
    output := Buffer.append_wf h.output hlen happend
    echoed := by
      rw [Buffer.append_ok h.output hlen happend hslide, ← List.append_assoc, h.echoed] }

/-! ## Every event, every run -/

lemma Echoes.handleWrite {written : Option ℕ} (h : Echoes s)
    (hwrite : s.handleWrite false written = .ok s') : Echoes s' := by
  unfold Conversation.handleWrite at hwrite
  split at hwrite
  · cases hn : (if s.output_.readableBytes > 0 then written else some 0) with
    | none =>
      simp only [hn] at hwrite
      rw [← Except.ok.inj hwrite]
      exact h
    | some n =>
      simp only [hn] at hwrite
      obtain ⟨output, hretrieve, hwrite⟩ := except_bind_eq_ok.mp hwrite
      obtain ⟨hwf, hreadable⟩ := Buffer.retrieve_ok h.output hretrieve
      have hechoed : (s.socket ++ s.output_.readable.take n) ++ output.readable = s.received := by
        rw [hreadable, List.append_assoc, List.take_append_drop, h.echoed]
      split at hwrite
      · rw [← Except.ok.inj hwrite]
        exact ⟨h.input, h.unread, h.empty, hwf, hechoed⟩
      · rw [← Except.ok.inj hwrite]
        exact ⟨h.input, h.unread, h.empty, hwf, hechoed⟩
  · rw [← Except.ok.inj hwrite]
    exact h

/-- What `handleRead` has read is what the callback gets. -/
lemma Echoes.enter_read {data : Bytes} {calls : List Call} (h : Echoes s)
    (hlen : data.length ≤ s.input_.writableBytes + Buffer.extraSize)
    (henter : s.enter callbacks (.read data ()) = .ok (s', calls)) :
    ∃ input, s' = { s with input_ := input, received := s.received ++ data } ∧
      calls = EchoServer.onMsg data ∧ input.WF ∧ input.readable = data := by
  obtain ⟨input, hread, henter⟩ := except_bind_eq_ok.mp henter
  obtain ⟨hwf, hreadable⟩ := Buffer.readFd_unread h.input h.unread hlen hread
  rw [h.empty, List.nil_append] at hreadable
  obtain ⟨rfl, rfl⟩ := Prod.mk.inj (Except.ok.inj henter)
  exact ⟨input, rfl, congrArg EchoServer.onMsg hreadable, hwf, hreadable⟩

lemma Echoes.step {e : Conversation.Event Unit Unit} (h : Echoes s)
    (hmeets : Meets callbacks NoSlide s e) (hallowed : s.allowed callbacks e)
    (hexec : s.exec callbacks e = .ok s') : Echoes s' := by
  obtain ⟨⟨s₁, calls⟩, henter, hcalls⟩ := except_bind_eq_ok.mp hexec
  cases e with
  | read data reply =>
    obtain ⟨-, hconnected, -, -, hlen⟩ := hallowed
    have hkeeps := hmeets _ _ henter
    obtain ⟨input, rfl, rfl, hwf, hreadable⟩ := h.enter_read hlen henter
    exact h.onMsg hconnected hwf hreadable hkeeps hcalls
  | write written =>
    obtain ⟨s₂, hwrite, henter⟩ := except_bind_eq_ok.mp henter
    obtain ⟨rfl, rfl⟩ := Prod.mk.inj (Except.ok.inj henter)
    obtain rfl := Except.ok.inj hcalls
    exact h.handleWrite hwrite
  | closeInLoop =>
    obtain ⟨rfl, rfl⟩ := Prod.mk.inj (Except.ok.inj henter)
    obtain rfl := Except.ok.inj hcalls
    split <;> exact ⟨h.input, h.unread, h.empty, h.output, h.echoed⟩
  | _ =>
    obtain ⟨rfl, rfl⟩ := Prod.mk.inj (Except.ok.inj henter)
    obtain rfl := Except.ok.inj hcalls
    exact ⟨h.input, h.unread, h.empty, h.output, h.echoed⟩

lemma echoes_initial : Echoes (Conversation.initial callbacks) where
  input := Buffer.fresh_wf
  unread := rfl
  empty := Buffer.fresh_readable
  output := Buffer.fresh_wf
  echoed := by
    show [] ++ Buffer.fresh.readable = []
    rw [Buffer.fresh_readable]
    rfl

/-- In the middle of the callback, what has come last is still to be sent. -/
lemma Echoes.calling {e : Conversation.Event Unit Unit} {s₁ : Conversation Unit}
    {done rest : List Call} (h : Echoes s) (hallowed : s.allowed callbacks e)
    (henter : s.enter callbacks e = .ok (s₁, done ++ rest)) (hcalls : s₁.calls done = .ok s')
    (hrest : rest ≠ []) : s'.socket ++ s'.output_.readable <+: s'.received := by
  cases e with
  | read data reply =>
    obtain ⟨-, -, -, -, hlen⟩ := hallowed
    obtain ⟨input, rfl, hdone, -⟩ := h.enter_read hlen henter
    have hprefix : s.socket ++ s.output_.readable <+: s.received ++ data :=
      h.echoed ▸ List.prefix_append _ _
    rcases calls_cases hdone with rfl | rfl | ⟨-, rfl⟩
    · obtain rfl := Except.ok.inj hcalls
      exact hprefix
    · obtain ⟨s₂, hretrieve, hcalls⟩ := except_bind_eq_ok.mp hcalls
      obtain rfl := Except.ok.inj hcalls
      obtain ⟨input', -, hretrieve⟩ := except_bind_eq_ok.mp hretrieve
      obtain rfl := Except.ok.inj hretrieve
      exact hprefix
    · exact absurd rfl hrest
  | write written =>
    obtain ⟨s₂, -, henter⟩ := except_bind_eq_ok.mp henter
    have hnil := (Prod.mk.inj (Except.ok.inj henter)).2
    exact absurd (List.append_eq_nil_iff.mp hnil.symm).2 hrest
  | _ =>
    have hnil := (Prod.mk.inj (Except.ok.inj henter)).2
    exact absurd (List.append_eq_nil_iff.mp hnil.symm).2 hrest

section
variable {s : Serving Unit} {size_ : ℕ} {name_ : Bytes} {c : ConnId}
  {as : List (Serving.Action Unit Unit)}

/-- **Echo.** What has been put on the socket and what waits to be written is what was read, in its
order; of what was read last, nothing while the callback is running. -/
theorem echoes_of_run
    (hrun : (Serving.machine callbacks).Run (.initial callbacks size_ name_) as s)
    (hsteps : (Serving.machine callbacks).AllSteps (fun s a => s.Few a ∧ s.CallsMeet NoSlide c a)
      (.initial callbacks size_ name_) as) (hup : s.tcp.Up c) :
    s.socket c ++ (s.tcp.conn c).output_.readable <+: s.received c ∧
      (s.rest c = [] → s.socket c ++ (s.tcp.conn c).output_.readable = s.received c) := by
  obtain ⟨es, t, hes, hmeets, -, hshows⟩ := Serving.matches_of_run hrun hsteps
  have hechoes : Echoes t := hes.invariant hmeets echoes_initial
    fun _ _ _ h hmeets hallowed hexec => h.step hmeets hallowed hexec
  cases hshows with
  | unborn hdown => exact absurd hup hdown
  | idle _ _ =>
    have hechoed : s.socket c ++ (s.tcp.conn c).output_.readable = s.received c := hechoes.echoed
    exact ⟨hechoed ▸ List.prefix_rfl, fun _ => hechoed⟩
  | calling _ hallowed henter hcalls _ hrest =>
    exact ⟨hechoes.calling hallowed henter hcalls hrest, fun hnil => absurd hnil hrest⟩

theorem echoes_echoTwo : ∃ s, (Serving.machine callbacks).Run (.initial callbacks 0 []) echoTwo s ∧
    s.socket 0 = [104] ∧ s.socket 0 ++ (s.tcp.conn 0).output_.readable <+: s.received 0 ∧
      (s.rest 0 = [] → s.socket 0 ++ (s.tcp.conn 0).output_.readable = s.received 0) := by
  obtain ⟨s, hrun, hs⟩ := Machine.Run.of_replay_map (Serving.machine callbacks)
    (.initial callbacks 0 []) echoTwo (fun s => decide (s.socket 0 = [104] ∧ s.tcp.Up 0))
    (by decide +kernel)
  obtain ⟨hsocket, hup⟩ := of_decide_eq_true hs
  exact ⟨s, hrun, hsocket, echoes_of_run hrun (by decide +kernel) hup⟩

end

end EchoServer
end Miniduo
