import Miniduo.PlacementTheorems

/-!
# The outbound stream of a connection

What a connection has written and what is left in `output_` is what `sendInLoop` accepted, as long
as no `append` slides the buffer (`stream_intact_of_noSlide`); sliding loses bytes
(`stream_not_intact`). That nothing is left without a pending write holds in any case (`Flow`).
-/

namespace Miniduo

/-! ## The buffer and the write interest -/

/-- The output buffer of a connection and its interest in writing. -/
structure Flow (conn : TcpConnection) : Prop where
  output : conn.output_.WF
  empty : conn.state_ = .kConnecting → conn.output_.readableBytes = 0
  writing : conn.state_ = .kConnected ∨ conn.state_ = .kDisconnecting →
    conn.output_.readableBytes ≠ 0 → conn.connChannel_.isWriting = true

section
variable {conn conn' : TcpConnection} {e : ConnEvent}

/-- Every member that fills `output_` turns the interest on, and the one that turns it off has
emptied `output_`. -/
lemma Flow.step (h : Flow conn) (hstep : ConnStep conn e conn')
    (hlength : ∀ t msg, e = .accept t msg → msg.length ≤ maxSize) : Flow conn' := by
  cases hstep with
  | send t msg => exact ⟨h.output, h.empty, h.writing⟩
  | accept t hstate happend =>
    refine ⟨Buffer.append_wf h.output (hlength t _ rfl) happend, ?_, fun _ _ => ?_⟩
    · intro hconnecting
      rw [show conn.state_ = .kConnecting from hconnecting] at hstate
      cases hstate
    · show (if conn.connChannel_.isWriting then conn.connChannel_ else
        conn.connChannel_.enableWriting true).isWriting = true
      split
      · assumption
      · simp
  | shutdownNow hstate hidle =>
    exact ⟨h.output, fun hc => by simp at hc, fun _ => h.writing (Or.inl hstate)⟩
  | shutdownLater hstate hwriting =>
    exact ⟨h.output, fun hc => by simp at hc, fun _ => h.writing (Or.inl hstate)⟩
  | writePart hwriting hretrieve hleft =>
    obtain ⟨hwf, hread⟩ := Buffer.retrieve_ok h.output hretrieve
    refine ⟨hwf, fun hc => ?_, fun _ _ => hwriting⟩
    -- nothing could have been written from an empty buffer
    exfalso
    have hempty : conn.output_.readable.length = 0 := by
      rw [h.output.length_readable]
      exact h.empty hc
    rw [← hwf.length_readable, hread, List.length_drop, hempty] at hleft
    omega
  | writeAll hwriting hretrieve hdone =>
    exact ⟨(Buffer.retrieve_ok h.output hretrieve).1, fun _ => hdone, fun _ hne => absurd hdone hne⟩
  | establish i hstate =>
    exact ⟨h.output, fun hc => by simp at hc, fun _ hne => absurd (h.empty hstate) hne⟩
  | close i hstate =>
    exact ⟨h.output, fun hc => by simp at hc, fun hup => by simp at hup⟩
  | read hread => exact ⟨h.output, h.empty, h.writing⟩
  | retrieve hretrieve => exact ⟨h.output, h.empty, h.writing⟩
  | removal => exact ⟨h.output, h.empty, h.writing⟩

end

/-! ## What `write` has taken -/

/-- The stream of a connection carries what was accepted, and only what is accepted waits. -/
structure Intact (conn : TcpConnection) : Prop where
  bytes : conn.log.wrote ++ conn.output_.readable = (conn.log.accepted.map Prod.snd).flatten
  order : ∀ t, (conn.log.accepted.filter (·.1 = t)).Sublist (conn.log.sends.filter (·.1 = t))
  writing : conn.state_ = .kConnected ∨ conn.state_ = .kDisconnecting →
    conn.output_.readableBytes ≠ 0 → conn.connChannel_.isWriting = true

/-- The part of `Intact` about bytes, with what keeps it. -/
def Carries (conn : TcpConnection) : Prop :=
  Flow conn ∧ conn.log.wrote ++ conn.output_.readable = (conn.log.accepted.map Prod.snd).flatten

/-- Every event keeps what has been written and what is left in line with what was accepted, if the
accepted message does not slide the buffer. -/
lemma Carries.step {conn conn' : TcpConnection} {e : ConnEvent} (h : Carries conn)
    (hstep : ConnStep conn e conn')
    (hfits : ∀ t msg, e = .accept t msg →
      msg.length ≤ maxSize ∧ (conn.state_ = .kConnected → ¬conn.output_.Slides msg.length)) :
    Carries conn' := by
  obtain ⟨hflow, hbytes⟩ := h
  refine ⟨hflow.step hstep fun t msg he => (hfits t msg he).1, ?_⟩
  cases hstep with
  | @accept t msg output hstate happend =>
    obtain ⟨hlength, hslides⟩ := hfits t msg rfl
    show conn.log.wrote ++ output.readable = _
    rw [Buffer.append_ok hflow.output hlength happend (hslides hstate), ← List.append_assoc, hbytes]
    simp
  | writePart hwriting hretrieve hleft =>
    rw [(Buffer.retrieve_ok hflow.output hretrieve).2, ← hbytes, List.append_assoc,
      List.take_append_drop]
  | writeAll hwriting hretrieve hdone =>
    rw [(Buffer.retrieve_ok hflow.output hretrieve).2, ← hbytes, List.append_assoc,
      List.take_append_drop]
  | _ => exact hbytes

/-- The message that a work item will give to `sendInLoop` of the connection. -/
def Work.message (c : ConnId) : Work → Option (Thread × Bytes)
  | .task (.sendInLoop c' t msg) => if c' = c then some (t, msg) else none
  | _ => none

namespace TcpServer

/-! ## The order of the messages of one thread -/

/-- The messages of a connection that wait in a loop. -/
def messages (s : TcpServer) (c : ConnId) (i : ℕ) : List (Thread × Bytes) :=
  (s.works i).filterMap (Work.message c)

/-- What was accepted of one thread, and then what waits, comes in the order it was sent in. -/
def Ordered (s : TcpServer) : Prop :=
  ∀ c < s.created, ∀ t, (((s.conn c).log.accepted ++ s.messages c (s.conn c).loop_).filter
    (·.1 = t)).Sublist ((s.conn c).log.sends.filter (·.1 = t))

/-- No message is sent, accepted or queued; some may be dropped. -/
structure Silent (s s' : TcpServer) : Prop where
  created : s'.created = s.created
  loops : ∀ c, (s'.conn c).loop_ = (s.conn c).loop_
  accepted : ∀ c, (s'.conn c).log.accepted = (s.conn c).log.accepted
  sends : ∀ c, (s'.conn c).log.sends = (s.conn c).log.sends
  messages : ∀ c i, (s'.messages c i).Sublist (s.messages c i)

section
variable {s s' s'' : TcpServer} {i c : ℕ}

lemma Silent.trans (h : s.Silent s') (h' : s'.Silent s'') : s.Silent s'' where
  created := h'.created.trans h.created
  loops := fun c => (h'.loops c).trans (h.loops c)
  accepted := fun c => (h'.accepted c).trans (h.accepted c)
  sends := fun c => (h'.sends c).trans (h.sends c)
  messages := fun c i => (h'.messages c i).trans (h.messages c i)

/-- A step that leaves the connections and queues no message is silent. -/
lemma Silent.of_works (hcreated : s'.created = s.created) (hconn : s'.conn = s.conn)
    (hworks : ∀ c i, (s'.messages c i).Sublist (s.messages c i)) : s.Silent s' :=
  ⟨hcreated, fun _ => by rw [hconn], fun _ => by rw [hconn], fun _ => by rw [hconn], hworks⟩

lemma silent_refl : s.Silent s := .of_works rfl rfl fun _ _ => .refl _

/-- Tasks other than `sendInLoop` carry no message. -/
lemma silent_queueInLoop {t : Task} (ht : ∀ c, Work.message c (.task t) = none) :
    s.Silent (s.queueInLoop i t) := by
  refine .of_works rfl rfl fun c j => ?_
  unfold messages
  by_cases hj : j = i
  · rw [hj, works_queueInLoop_self, List.filterMap_append, List.filterMap_cons_none (ht c)]
    simp
  · rw [works_queueInLoop_ne _ hj]

/-- A loop thread goes on to work that sends nothing. -/
lemma silent_setThread {th : LoopThread}
    (htodo : ∀ c, (th.todo.filterMap (Work.message c)).Sublist
      ((s.thread i).todo.filterMap (Work.message c))) : s.Silent (s.setThread i th) := by
  refine .of_works rfl rfl fun c j => ?_
  unfold messages works
  by_cases hj : j = i
  · rw [hj, setThread_thread_self, List.filterMap_append, List.filterMap_append]
    exact (htodo c).append_right _
  · rw [setThread_thread_ne _ _ _ hj]
    exact .refl _

/-- Taking work drops a message at most. -/
lemma silent_pop : s.Silent (s.pop i) :=
  silent_setThread fun _ => (List.tail_sublist _).filterMap _

lemma silent_enterUser {arg : Option ConnId} : s.Silent (s.enterUser i arg) :=
  silent_setThread fun _ => .refl _

/-- Messages stay in their order when the queue is taken. -/
lemma silent_swap (htodo : (s.thread i).todo = []) : s.Silent (s.swap i) := by
  refine .of_works rfl rfl fun c j => ?_
  rw [messages, works_swap htodo]
  exact .refl _

/-- Events of a connection other than `send` and `accept` are silent. -/
lemma Effect.silent {e : ConnEvent} (h : s.Effect c e s') (he : ∀ t msg, e ≠ .send t msg ∧
    e ≠ .accept t msg) : s.Silent s' := by
  have hstep := h.step
  have hsame : (s'.conn c).log.accepted = (s.conn c).log.accepted ∧
      (s'.conn c).log.sends = (s.conn c).log.sends := by
    generalize s'.conn c = conn at hstep
    cases hstep with
    | send t msg => exact absurd rfl (he t msg).1
    | @accept t msg output hstate happend => exact absurd rfl (he t msg).2
    | _ => exact ⟨rfl, rfl⟩
  have hworks : s'.works = s.works := by
    obtain ⟨conn, p, -, -, hs'⟩ := h
    rw [hs', works_touch]
  refine ⟨h.created_eq, fun c' => ?_, fun c' => ?_, fun c' => ?_, fun c' j => ?_⟩
  · by_cases hc : c' = c
    · rw [hc, hstep.loop_eq]
    · rw [h.other hc]
  · by_cases hc : c' = c
    · rw [hc, hsame.1]
    · rw [h.other hc]
  · by_cases hc : c' = c
    · rw [hc, hsame.2]
    · rw [h.other hc]
  · rw [messages, hworks]
    exact .refl _

lemma channelRemoved.silent (h : s.channelRemoved s' c) : s.Silent s' := by
  obtain ⟨p, -, hs'⟩ := h
  have hconn : s'.conn = s.conn := by
    rw [hs', touch, Function.update_eq_self]
  refine .of_works (by rw [hs', touch_created]) hconn fun c j => ?_
  rw [hs', messages, works_touch]
  exact .refl _

lemma callsDown.silent {rest : Work} (h : s.callsDown s' i c rest)
    (hrest : rest = .closeCallback c ∨ rest = .removeChannel c) : s.Silent s' := by
  obtain ⟨s₁, heffect, hs'⟩ := h
  have hpush : s₁.Silent (s₁.pushWork i rest) := by
    refine silent_setThread fun c' => ?_
    have hnone : Work.message c' rest = none := by rcases hrest with rfl | rfl <;> rfl
    rw [List.filterMap_cons_none hnone]
  rw [hs']
  exact ((heffect.silent fun _ _ => by simp).trans hpush).trans silent_enterUser

lemma removed.silent (h : s.removed s' c) : s.Silent s' := by
  obtain ⟨s₁, heffect, -, hs'⟩ := h
  rw [hs']
  have hunmap : s₁.Silent (s₁.unmap (s.conn c).name_) := .of_works rfl rfl fun _ _ => .refl _
  exact ((heffect.silent fun _ _ => by simp).trans hunmap).trans (silent_queueInLoop fun _ => rfl)

/-- A loop thread at work sends nothing, and accepts only the message of its task. -/
lemma Worked.silent {w : Work} {a : Action} (h : s.Worked i w a s') :
    s.Silent s' ∨ ∃ c t msg, w = .task (.sendInLoop c t msg) ∧ s.Effect c (.accept t msg) s' := by
  cases h with
  | nothing _ _ _ => exact Or.inl silent_refl
  | established heffect => exact Or.inl ((heffect.silent fun _ _ => by simp).trans silent_enterUser)
  | destroyedDown hdown => exact Or.inl (hdown.silent (Or.inr rfl))
  | destroyed hgone => exact Or.inl hgone.silent
  | removedTask hremoved => exact Or.inl hremoved.silent
  | removedHere hremoved => exact Or.inl hremoved.silent
  | removedQueued c => exact Or.inl (silent_queueInLoop fun _ => rfl)
  | channelRemoved hgone => exact Or.inl hgone.silent
  | writeComplete c => exact Or.inl silent_enterUser
  | accepted haccept => exact Or.inr ⟨_, _, _, rfl, haccept⟩
  | shutdown hshutdown => exact Or.inl (hshutdown.silent fun _ _ => by simp)
  | closed hdown => exact Or.inl (hdown.silent (Or.inl rfl))
  | again c => exact Or.inl (silent_queueInLoop fun _ => rfl)
  | peerClosed hdown => exact Or.inl (hdown.silent (Or.inl rfl))
  | read hread => exact Or.inl ((hread.silent fun _ _ => by simp).trans silent_enterUser)
  | written hwrite => exact Or.inl (hwrite.silent fun _ _ => by simp)
  | writtenAll hwrite =>
    exact Or.inl ((hwrite.silent fun _ _ => by simp).trans (silent_queueInLoop fun _ => rfl))
  | userTask => exact Or.inl silent_enterUser
  | userHandler => exact Or.inl silent_enterUser

/-- A silent step keeps the order. -/
lemma Ordered.silent (h : s.Ordered) (hs : s.Silent s') : s'.Ordered := by
  intro c hc t
  rw [hs.created] at hc
  rw [hs.accepted, hs.sends, hs.loops]
  exact (((hs.messages c _).append_left _).filter _).trans (h c hc t)

/-- A connection that does not exist has no messages waiting. -/
lemma Placed.messages_eq_nil (h : s.Placed) (hc : s.created ≤ c) (j : ℕ) : s.messages c j = [] := by
  refine List.filterMap_eq_nil_iff.mpr fun w hw => ?_
  have hat := h.work j w hw
  cases w with
  | task t =>
    cases t with
    | sendInLoop c' t msg =>
      have hne : c' ≠ c := Nat.ne_of_lt (lt_of_lt_of_le hat.1.1 hc)
      simp only [Work.message, if_neg hne]
    | _ => rfl
  | _ => rfl

/-- A new connection has no messages. -/
lemma Ordered.withConnection (h : s.Ordered) (hplaced : s.Placed) (fd : ℕ) :
    (s.withConnection fd).Ordered := by
  intro c hc t
  by_cases hnew : c = s.created
  · have hnil : (s.withConnection fd).messages c ((s.withConnection fd).conn c).loop_ = [] :=
      hplaced.messages_eq_nil (le_of_eq hnew.symm) _
    have hconn : (s.withConnection fd).conn c = s.opened fd := by
      simp only [hnew, TcpServer.withConnection, Function.update_self]
    rw [hnil, hconn]
    exact .refl _
  · have hlt : c < s.created + 1 := hc
    have hconn : (s.withConnection fd).conn c = s.conn c := by
      simp only [TcpServer.withConnection, Function.update_of_ne hnew]
    rw [hconn]
    exact h c (by omega) t

/-- The task that was waiting longest is the next message to be accepted. -/
lemma Ordered.acceptTask {t : Thread} {msg : Bytes} (h : s.Ordered) (hplaced : s.Placed)
    (hnext : s.Next i (.task (.sendInLoop c t msg)))
    (haccept : (s.pop i).Effect c (.accept t msg) s') : s'.Ordered := by
  have hi : (s.conn c).loop_ = i := (hplaced.workAt hnext).1.2
  -- the executed task was the first of the messages still to be accepted
  have hpopped : s.messages c i = (t, msg) :: s'.messages c i := by
    obtain ⟨conn, p, -, -, hs'⟩ := haccept
    rw [messages, works_pop_self hnext, hs']
    exact List.filterMap_cons_some (by simp only [Work.message, if_true])
  have hstep := haccept.step
  intro c' hc' t'
  rw [haccept.created_eq] at hc'
  by_cases hc : c' = c
  · subst hc
    have hlog : (s'.conn c').log.accepted = (s.conn c').log.accepted ++ [(t, msg)] ∧
        (s'.conn c').log.sends = (s.conn c').log.sends ∧
        (s'.conn c').loop_ = (s.conn c').loop_ := by
      generalize s'.conn c' = conn at hstep
      cases hstep
      exact ⟨rfl, rfl, rfl⟩
    have hbefore := h c' hc' t'
    rw [hi, hpopped] at hbefore
    rw [hlog.1, hlog.2.1, hlog.2.2, hi, List.append_assoc]
    exact hbefore
  · have hmessages : (s'.messages c' (s.conn c').loop_).Sublist
        (s.messages c' (s.conn c').loop_) := by
      obtain ⟨conn, p, -, -, hs'⟩ := haccept
      -- what was popped is no message of another connection
      rw [hs']
      exact silent_pop.messages c' _
    rw [haccept.other hc]
    exact ((hmessages.append_left _).filter _).trans (h c' hc' t')

/-- A call of `send`: the message is queued behind the others of its thread, or accepted at once in
the loop's thread, none of whose messages can be waiting. -/
lemma Ordered.called {a : Action} {t : Thread} (h : s.Ordered) (hplaced : s.Placed)
    (hcalled : s.Called t c a s') : s'.Ordered := by
  have hlog : ∀ {msg : Bytes} {s₁ : TcpServer}, s.Effect c (.send t msg) s₁ →
      (s₁.conn c).log.accepted = (s.conn c).log.accepted ∧
      (s₁.conn c).log.sends = (s.conn c).log.sends ++ [(t, msg)] ∧ s₁.works = s.works := by
    intro msg s₁ hsend
    have hstep := hsend.step
    obtain ⟨conn, p, -, -, hs₁⟩ := hsend
    have hworks : s₁.works = s.works := by rw [hs₁, works_touch]
    generalize s₁.conn c = conn at hstep
    cases hstep
    exact ⟨rfl, rfl, hworks⟩
  cases hcalled with
  | @sendQueued msg s₁ hout hlength hsend =>
    obtain ⟨haccepted, hsends, hworks⟩ := hlog hsend
    intro c' hc' t'
    have hlt : c' < s.created := by
      rw [queueInLoop_created, hsend.created_eq] at hc'
      exact hc'
    rw [queueInLoop_conn]
    by_cases hc : c' = c
    · subst hc
      have hmessages : (s₁.queueInLoop (s.conn c').loop_ (.sendInLoop c' t msg)).messages c'
          (s.conn c').loop_ = s.messages c' (s.conn c').loop_ ++ [(t, msg)] := by
        rw [messages, works_queueInLoop_self, hworks, List.filterMap_append]
        simp [Work.message, messages]
      rw [haccepted, hsends, hsend.step.loop_eq, hmessages, ← List.append_assoc,
        List.filter_append _ [(t, msg)], List.filter_append _ [(t, msg)]]
      exact (h c' hlt t').append_right _
    · have hnone : Work.message c' (.task (.sendInLoop c t msg)) = none := by
        simp only [Work.message, if_neg (Ne.symm hc)]
      have hmessages : ∀ j, (s₁.queueInLoop (s.conn c).loop_ (.sendInLoop c t msg)).messages c' j
          = s.messages c' j := by
        intro j
        unfold messages
        by_cases hj : j = (s.conn c).loop_
        · rw [hj, works_queueInLoop_self, hworks, List.filterMap_append,
            List.filterMap_cons_none hnone, List.filterMap_nil, List.append_nil]
        · rw [works_queueInLoop_ne _ hj, hworks]
      rw [hmessages, hsend.other hc]
      exact h c' hlt t'
  | @sendIgnored msg _ hin hsend =>
    obtain ⟨haccepted, hsends, hworks⟩ := hlog hsend
    intro c' hc' t'
    have hc' : c' < s.created := hsend.created_eq ▸ hc'
    have hmessages : ∀ j, s'.messages c' j = s.messages c' j := fun j => by
      rw [messages, hworks, messages]
    rw [hmessages]
    by_cases hc : c' = c
    · subst hc
      rw [haccepted, hsends, hsend.step.loop_eq, List.filter_append _ [(t, msg)]]
      exact (h c' hc' t').trans (List.sublist_append_left _ _)
    · rw [hsend.other hc]
      exact h c' hc' t'
  | @sendAccepted msg s₁ _ hin hsend haccept =>
    obtain ⟨haccepted, hsends, hworks⟩ := hlog hsend
    have hstep := haccept.step
    have hlog₂ : (s'.conn c).log.accepted = (s₁.conn c).log.accepted ++ [(t, msg)] ∧
        (s'.conn c).log.sends = (s₁.conn c).log.sends ∧
        (s'.conn c).loop_ = (s₁.conn c).loop_ ∧ s'.works = s₁.works := by
      obtain ⟨conn, p, -, -, hs'⟩ := haccept
      have hw : s'.works = s₁.works := by rw [hs', works_touch]
      generalize s'.conn c = conn at hstep
      cases hstep
      exact ⟨rfl, rfl, rfl, hw⟩
    obtain ⟨haccepted₂, hsends₂, hloop₂, hworks₂⟩ := hlog₂
    intro c' hc' t'
    have hc' : c' < s.created := by
      rw [haccept.created_eq, hsend.created_eq] at hc'
      exact hc'
    have hmessages : ∀ j, s'.messages c' j = s.messages c' j := fun j => by
      rw [messages, hworks₂, hworks, messages]
    rw [hmessages]
    by_cases hc : c' = c
    · subst hc
      have hthread : t = .loop (s.conn c').loop_ := hplaced.thread_eq hin
      rw [haccepted₂, hsends₂, haccepted, hsends, hloop₂, hsend.step.loop_eq,
        List.filter_append _ [(t, msg)]]
      have hbefore := h c' hc' t'
      by_cases ht : t' = t
      · -- a message of the loop's thread never waits
        have hnone : (s.messages c' (s.conn c').loop_).filter (·.1 = t') = [] := by
          refine List.filter_eq_nil_iff.mpr fun m hm => ?_
          obtain ⟨w, hw, hwm⟩ := List.mem_filterMap.mp hm
          have hat := hplaced.work _ w hw
          unfold Work.message at hwm
          split at hwm
          · rename_i c'' sender msg'
            split at hwm
            · rw [← Option.some.inj hwm, ht, hthread, decide_eq_true_eq]
              exact hat.2.1
            · cases hwm
          · cases hwm
        rw [List.filter_append, hnone, List.append_nil] at hbefore
        rw [List.filter_append, hnone, List.append_nil, List.filter_append _ [(t, msg)]]
        exact hbefore.append_right _
      · have hdrop : [(t, msg)].filter (·.1 = t') = [] := by
          simp [Ne.symm ht]
        rw [hdrop, List.append_nil, List.filter_append, List.filter_append _ [(t, msg)], hdrop,
          List.append_nil, ← List.filter_append]
        exact hbefore
    · rw [haccept.other hc, hsend.other hc]
      exact h c' hc' t'
  | shutdownQueued _ => exact h.silent (silent_queueInLoop fun _ => rfl)
  | shutdownIgnored _ => exact h
  | shutdownRun hin hshutdown => exact h.silent (hshutdown.silent fun _ _ => by simp)
  | close => exact h.silent (silent_queueInLoop fun _ => rfl)
  | closeInNextLoop => exact h.silent (silent_queueInLoop fun _ => rfl)

/-- Every action keeps the order of the messages of each thread. -/
lemma Ordered.outcome {a : Action} (h : s.Ordered) (hplaced : s.Placed)
    (houtcome : s.Outcome a s') : s'.Ordered := by
  cases houtcome with
  | @start i hi hphase =>
    exact h.silent (.of_works rfl rfl fun c j => by
      rw [messages, works_started, messages])
  | @swap i hphase =>
    have htodo : (s.thread i).todo = [] := (hplaced.threads i).todo_eq_nil (by rw [hphase]; decide)
    exact h.silent (silent_swap htodo)
  | endTasks hphase htodo huser => exact h.silent (silent_setThread fun _ => .refl _)
  | @poll i active hallowed =>
    refine h.silent (silent_setThread fun c => ?_)
    -- handlers carry no messages
    have hnone : (active.flatMap Ready.work).filterMap (Work.message c) = [] := by
      refine List.filterMap_eq_nil_iff.mpr fun w hw => ?_
      obtain ⟨r, -, hw⟩ := List.mem_flatMap.mp hw
      cases r <;> simp only [Ready.work, List.mem_append, List.mem_singleton] at hw
      · rcases hw with hw | hw <;> split at hw
        · rw [List.mem_singleton.mp hw]
          rfl
        · cases hw
        · rw [List.mem_singleton.mp hw]
          rfl
        · cases hw
      · rw [hw]
        rfl
      · rw [hw]
        rfl
    rw [hnone]
    exact List.nil_sublist _
  | endHandlers hphase htodo huser => exact h.silent (silent_setThread fun _ => .refl _)
  | userReturns huser => exact h.silent (silent_setThread fun _ => .refl _)
  | work hnext hworked =>
    rcases hworked.silent with hsilent | ⟨c, t, msg, hw, haccept⟩
    · exact h.silent (silent_pop.trans hsilent)
    · rw [hw] at hnext
      exact h.acceptTask hplaced hnext haccept
  | acceptQueued hnext =>
    exact (h.withConnection hplaced _).silent (silent_queueInLoop fun _ => rfl)
  | acceptHere hnext hin heffect =>
    exact (h.withConnection hplaced _).silent
      ((heffect.silent fun _ _ => by simp).trans silent_enterUser)
  | call hholds hcalled => exact h.called hplaced hcalled
  | queueUser => exact h.silent (silent_queueInLoop fun _ => rfl)
  | retrieve hretrieve => exact h.silent (hretrieve.silent fun _ _ => by simp)
  | copyPtr hholds => exact h.silent (.of_works rfl rfl fun _ _ => .refl _)
  | dropPtr c => exact h.silent (.of_works rfl rfl fun _ _ => .refl _)

end

/-! ## Runs -/

/-- `sendInLoop`, where it accepts its message, does not slide `output_`. -/
def NoSlide (s : TcpServer) : Action → Prop
  | .send t c msg => (s.loop (s.conn c).loop_).isInLoopThread t.tid = true →
      (s.conn c).state_ = .kConnected → ¬(s.conn c).output_.Slides msg.length
  | .task _ (.sendInLoop c _ msg) =>
      (s.conn c).state_ = .kConnected → ¬(s.conn c).output_.Slides msg.length
  | _ => True

instance (s : TcpServer) : ∀ a, Decidable (s.NoSlide a)
  | .send .. => inferInstanceAs (Decidable (_ → _ → ¬_))
  | .task _ (.sendInLoop ..) => inferInstanceAs (Decidable (_ → ¬_))
  | .task _ (.connectEstablished _) | .task _ (.connectDestroyed _)
  | .task _ (.removeConnectionInLoop _) | .task _ (.writeCompleteCallback _)
  | .task _ (.shutdownInLoop _) | .task _ (.closeInLoop _) | .task _ (.closeInNextLoop _)
  | .task _ .user | .start _ | .swap _ | .endTasks _ | .poll .. | .acceptorRead .. | .handleRead ..
  | .handleWrite .. | .userHandler _ | .closeCallback .. | .removeChannel .. | .endHandlers _
  | .userReturns _ | .shutdown .. | .close .. | .closeInNextLoop .. | .queueUser .. | .retrieve ..
  | .copyPtr .. | .dropPtr _ => isTrue trivial

/-- The condition on an action is one on the `sendInLoop` that it runs. -/
lemma NoSlide.of_runs {s : TcpServer} {a : Action} {c : ConnId} {t : Thread} {msg : Bytes}
    (h : s.NoSlide a) (hruns : s.RunsSendInLoop a c t msg) :
    (s.conn c).state_ = .kConnected → ¬(s.conn c).output_.Slides msg.length := by
  rcases hruns with ⟨ha, hin⟩ | ⟨i, ha⟩
  · rw [ha] at h
    exact h hin
  · rw [ha] at h
    exact h

section
variable {s : TcpServer} {size_ : ℕ} {name_ : Bytes} {callback : Bool} {as : List Action}

/-- A new connection has nothing to write. -/
lemma opened_flow (s : TcpServer) (fd : ℕ) : Flow (s.opened fd) := by
  have hempty : Buffer.fresh.readableBytes = 0 := by
    rw [← Buffer.fresh_wf.length_readable, Buffer.fresh_readable, List.length_nil]
  exact ⟨Buffer.fresh_wf, fun _ => hempty, fun hup => by simp [opened] at hup⟩

/-- In every run, what is left to write has a write interest. -/
lemma flow_of_run (hrun : machine.Run (initial size_ name_ callback) as s) :
    ∀ c < s.created, Flow (s.conn c) := by
  have hplaced := placed_steps (P := fun _ _ => True) hrun (.of_forall fun _ _ => trivial)
  refine conn_invariant hrun hplaced opened_flow ?_
  intro s a c conn e conn' hP hflow hcauses hstep
  refine hflow.step hstep fun t msg he => ?_
  rw [he] at hcauses
  exact hcauses.1.length_le hP.1 hP.2.1

/-- In every run, the messages of each thread are in order. -/
lemma ordered_of_run (hrun : machine.Run (initial size_ name_ callback) as s) : s.Ordered := by
  refine hrun.invariant (placed_steps (P := fun _ _ => True) hrun (.of_forall fun _ _ => trivial))
    (fun c hc => absurd hc (Nat.not_lt_zero c)) ?_
  intro s a s' hordered hP hallowed hexec
  exact hordered.outcome hP.1 (exec_outcome hallowed hexec)

/-- **The outbound stream** of every connection, in every run in which no accepted message slides
`output_`. -/
theorem stream_intact_of_noSlide (hrun : machine.Run (initial size_ name_ callback) as s)
    (hslides : machine.AllSteps NoSlide (initial size_ name_ callback) as) :
    ∀ c < s.created, Intact (s.conn c) := by
  have hcarries : ∀ c < s.created, Carries (s.conn c) := by
    refine conn_invariant hrun (placed_steps hrun hslides)
      (fun s fd => ⟨opened_flow s fd, Buffer.fresh_readable⟩) ?_
    intro s a c conn e conn' hP hcarries hcauses hstep
    refine hcarries.step hstep fun t msg he => ?_
    rw [he] at hcauses
    obtain ⟨hruns, hstate, houtput⟩ := hcauses
    rw [hstate, houtput]
    exact ⟨hruns.length_le hP.1 hP.2.1, hP.2.2.of_runs hruns⟩
  intro c hc
  refine ⟨(hcarries c hc).2, fun t => ?_, (hcarries c hc).1.writing⟩
  have hordered := ordered_of_run hrun c hc t
  rw [List.filter_append] at hordered
  exact (List.sublist_append_left _ _).trans hordered

end

/-- The callback returns, and the loop writes once. -/
def writeOnce (n : ℕ) : List Action :=
  [.userReturns 0, .acceptorRead 0 none, .endHandlers 0, .swap 0, .endTasks 0,
    .poll 0 [.conn 0 false true], .handleWrite 0 0 (some n), .endHandlers 0]

/-- A message of 1000 bytes is half written when another thread sends 10 more. -/
def partialWrite : List Action :=
  acceptOne ++ [.copyPtr (.loop 0) 0, .send (.loop 0) 0 (List.replicate 1000 1)] ++ writeOnce 500 ++
    [.send (.other 0) 0 (List.replicate 10 2), .swap 0,
      .task 0 (.sendInLoop 0 (.other 0) (List.replicate 10 2))]

/-- The second message waits behind the rest of the first. -/
theorem stream_intact_partialWrite : ∃ s, machine.Run (initial 0 [] true) partialWrite s ∧
    0 < s.created ∧ ∀ c < s.created, Intact (s.conn c) := by
  obtain ⟨s, hrun, hs⟩ := Machine.Run.of_replay_map machine (initial 0 [] true)
    partialWrite (fun s => decide (0 < s.created)) (by decide +kernel)
  exact ⟨s, hrun, of_decide_eq_true hs, stream_intact_of_noSlide hrun (by decide +kernel)⟩

/-- The other thread sends 110 bytes: they fit in front and behind together, and `output_` slides. -/
def slidingWrite : List Action :=
  acceptOne ++ [.copyPtr (.loop 0) 0, .send (.loop 0) 0 (List.replicate 1000 1)] ++ writeOnce 100 ++
    [.send (.other 0) 0 (List.replicate 110 2), .swap 0,
      .task 0 (.sendInLoop 0 (.other 0) (List.replicate 110 2))]

/-- Sliding replaces the bytes of the first message that have not been written by zeros and by
bytes that have been. -/
theorem stream_not_intact : ¬∀ (size_ : ℕ) (name_ : Bytes) (callback : Bool) (as : List Action) s,
    machine.Run (initial size_ name_ callback) as s → ∀ c < s.created, Intact (s.conn c) := by
  intro h
  obtain ⟨s, hrun, hs⟩ := Machine.Run.of_replay_map machine (initial 0 [] true)
    slidingWrite (fun s => decide (0 < s.created ∧
      (s.conn 0).log.wrote ++ (s.conn 0).output_.readable ≠
        ((s.conn 0).log.accepted.map Prod.snd).flatten)) (by decide +kernel)
  obtain ⟨hcreated, hne⟩ := of_decide_eq_true hs
  exact hne (h 0 [] true slidingWrite s hrun 0 hcreated).bytes

end TcpServer
end Miniduo
