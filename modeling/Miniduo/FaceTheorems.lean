import Miniduo.Callbacks
import Miniduo.TameTheorems

/-!
# What a step of the server shows to a connection

`face` is what of the server belongs to one connection: its state, its buffers, and its tasks in the
queue and in the batch of its loop. Steps that do not concern the connection leave it alone
(`Outcome.look_eq`); of the others, one lemma each says what they do, in the words of `Conversation`.
-/

namespace Miniduo

open HttpServer (SessionTask)

namespace Channel

/-- The interest in writing is off after `enableWriting(false)`. -/
lemma isWriting_enableWriting_false (ch : Channel) : (ch.enableWriting false).isWriting = false := by
  have hnone : ch.events_ &&& ~~~kWriteEvent &&& kWriteEvent = 0 := by
    rw [BitVec.and_assoc, show ~~~kWriteEvent &&& kWriteEvent = 0 by decide]
    exact BitVec.and_zero
  simp [isWriting, enableWriting, hnone]

/-- `enableReading` leaves the interest in writing. -/
lemma isWriting_enableReading (ch : Channel) : (ch.enableReading true).isWriting = ch.isWriting := by
  have hsame : (ch.events_ ||| kReadEvent) &&& kWriteEvent = ch.events_ &&& kWriteEvent := by
    ext k hk
    have hbit : (kReadEvent[k] && kWriteEvent[k]) = false := by
      have hzero := congrArg (fun x : BitVec 32 => x[k]) (show kReadEvent &&& kWriteEvent = 0 by decide)
      simpa only [BitVec.getElem_and, BitVec.ofNat_eq_ofNat, BitVec.getElem_zero] using hzero
    simp [Bool.and_or_distrib_right, hbit]
  simp [isWriting, enableReading, hsame]

/-- The interest in writing is off after `disableAll`. -/
lemma isWriting_disableAll (ch : Channel) : ch.disableAll.isWriting = false := by
  simp [isWriting, disableAll, kNoneEvent]

end Channel

/-- The task of the connection that the work is, if it is one. -/
def Work.session (c : ConnId) : Work → Option SessionTask
  | .task t => t.session c
  | _ => none

namespace TcpServer

/-- The tasks of the connection in the queue of its loop. -/
def queue (s : TcpServer) (c : ConnId) : List SessionTask :=
  (s.loop (s.conn c).loop_).pendingTasks_.filterMap (Task.session c)

/-- The tasks of the connection in what is left of the batch. -/
def batch (s : TcpServer) (c : ConnId) : List SessionTask :=
  (s.thread (s.conn c).loop_).todo.filterMap (Work.session c)

/-- The conversation of the connection, without the context and the bytes read, which the server
does not have. -/
def face (s : TcpServer) (c : ConnId) : Conversation Unit where
  context := ()
  connected := (s.conn c).state_ ≠ .kDisconnected
  isWriting := (s.conn c).connChannel_.isWriting
  input_ := (s.conn c).input_
  output_ := (s.conn c).output_
  pendingTasks_ := s.queue c
  tasks := s.batch c
  socket := (s.conn c).log.wrote

/-- The state of the connection and its face. -/
def look (s : TcpServer) (c : ConnId) : StateE × Conversation Unit := ((s.conn c).state_, s.face c)

/-- The action is a handler, a task or a call of the connection, or takes the queue of its loop. -/
def Concerns (s : TcpServer) (c : ConnId) : Action → Prop
  | .task _ t => t.raw = some c ∨ t = .connectEstablished c ∨ t = .writeCompleteCallback c
  | .handleRead _ c' _ | .handleWrite _ c' _ | .send _ c' _ | .shutdown _ c' | .close _ c'
  | .closeInNextLoop _ c' | .retrieve _ c' _ => c' = c
  | .swap i => i = (s.conn c).loop_
  | _ => False

variable {s s' : TcpServer} {a : Action} {i : ℕ} {c c' : ConnId} {t : Task} {w : Work}

/-! ## Steps that do not concern the connection -/

/-- A look is at the connection, at its tasks in the queue and at those in the batch. -/
lemma look_of_eq (hconn : s'.conn c = s.conn c) (hqueue : s'.queue c = s.queue c)
    (hbatch : s'.batch c = s.batch c) : s'.look c = s.look c := by
  rw [look, look, face, face, hconn, hqueue, hbatch]

/-- What happens to another connection does not show. -/
lemma look_touch {conn : TcpConnection} {p : EPollPoller ConnId} (hc : c ≠ c') :
    (s.touch c' conn p).look c = s.look c := by
  have hconn : (s.touch c' conn p).conn c = s.conn c := touch_conn_ne _ _ _ _ hc
  refine look_of_eq hconn ?_ ?_
  · rw [queue, queue, hconn, touch_loop]
  · rw [batch, batch, hconn, touch_thread]

/-- An event of another connection does not show. -/
lemma Effect.look_eq {e : ConnEvent} (h : s.Effect c' e s') (hc : c ≠ c') : s'.look c = s.look c := by
  obtain ⟨conn, p, -, -, rfl⟩ := h
  exact look_touch hc

/-- A thread that keeps the tasks of the connection does not show. -/
lemma look_setThread {th : LoopThread} (htodo :
    th.todo.filterMap (Work.session c) = (s.thread i).todo.filterMap (Work.session c)) :
    (s.setThread i th).look c = s.look c := by
  refine look_of_eq rfl rfl ?_
  unfold batch
  rw [setThread_conn]
  by_cases hi : (s.conn c).loop_ = i
  · rw [hi, setThread_thread_self, htodo]
  · rw [setThread_thread_ne _ _ _ hi]

lemma look_enterUser {arg : Option ConnId} : (s.enterUser i arg).look c = s.look c :=
  look_setThread rfl

lemma look_pushWork (hw : w.session c = none) : (s.pushWork i w).look c = s.look c :=
  look_setThread (List.filterMap_cons_none hw)

lemma look_pop (hnext : s.Next i w) (hw : w.session c = none) : (s.pop i).look c = s.look c := by
  refine look_setThread ?_
  rw [hnext.todo_eq, List.filterMap_cons_none hw]
  rfl

/-- A task that is none of the connection is not in its queue. -/
lemma queue_queueInLoop_none {j : ℕ} (ht : t.session c = none) :
    (s.queueInLoop j t).queue c = s.queue c := by
  unfold queue
  rw [queueInLoop_conn]
  by_cases hj : (s.conn c).loop_ = j
  · rw [hj, queueInLoop_loop_self]
    simp [EventLoop.queueInLoop, EventLoop.wakeup, ht]
  · rw [queueInLoop_loop_ne _ _ _ hj]

lemma look_queueInLoop {j : ℕ} (ht : t.session c = none) : (s.queueInLoop j t).look c = s.look c :=
  look_of_eq rfl (queue_queueInLoop_none ht) rfl

lemma look_removed (h : s.removed s' c') : s'.look c = s.look c := by
  obtain ⟨s₁, heffect, -, rfl⟩ := h
  have hremoval : s₁.look c = s.look c := by
    by_cases hc : c = c'
    · subst hc
      obtain ⟨conn, p, hstep, -, rfl⟩ := heffect
      cases hstep
      simp [look, face, queue, batch]
    · exact heffect.look_eq hc
  exact (look_queueInLoop rfl).trans hremoval

lemma look_channelRemoved (h : s.channelRemoved s' c') : s'.look c = s.look c := by
  obtain ⟨p, -, rfl⟩ := h
  rw [touch, Function.update_eq_self]
  rfl

lemma callsDown.look_eq {rest : Work} (h : s.callsDown s' i c' rest) (hc : c ≠ c')
    (hrest : rest.session c = none) : s'.look c = s.look c := by
  obtain ⟨s₁, heffect, rfl⟩ := h
  rw [look_enterUser, look_pushWork hrest, heffect.look_eq hc]

/-- A new connection does not show to the others. -/
lemma look_withConnection {fd : ℕ} (hc : c < s.created) :
    (s.withConnection fd).look c = s.look c := by
  have hconn : (s.withConnection fd).conn c = s.conn c :=
    Function.update_of_ne (Nat.ne_of_lt hc) ..
  refine look_of_eq hconn ?_ ?_ <;> simp only [queue, batch, hconn] <;> rfl

/-- Work that does not concern the connection does not show. -/
lemma Worked.look_eq (h : s.Worked i w a s') (hnot : ¬s.Concerns c a)
    (hdown : w = .task (.connectDestroyed c) → (s.conn c).state_ = .kDisconnected) :
    s'.look c = s.look c := by
  have hraw : ∀ {t : Task} {c' : ConnId}, a = .task i t → t.raw = some c' → c ≠ c' := by
    rintro t _ rfl ht rfl
    exact hnot (Or.inl ht)
  cases h with
  | nothing _ _ _ => rfl
  | @established c' s₁ heffect =>
    rw [look_enterUser, heffect.look_eq]
    rintro rfl
    exact hnot (Or.inr (Or.inl rfl))
  | @destroyedDown c' s₁ hdown' =>
    refine hdown'.look_eq ?_ rfl
    rintro rfl
    obtain ⟨s₂, heffect, -⟩ := hdown'
    have hstate := hdown rfl
    have hstep := heffect.step
    generalize s₂.conn c = conn at hstep
    cases hstep with
    | close i hup => rcases hup with hup | hup <;> rw [hstate] at hup <;> cases hup
  | destroyed hgone => exact look_channelRemoved hgone
  | removedTask hremoved => exact look_removed hremoved
  | removedHere hremoved => exact look_removed hremoved
  | removedQueued c => exact look_queueInLoop rfl
  | channelRemoved hgone => exact look_channelRemoved hgone
  | writeComplete c => exact look_enterUser
  | accepted haccept => exact haccept.look_eq (hraw rfl rfl)
  | shutdown hshutdown => exact hshutdown.look_eq (hraw rfl rfl)
  | closed hdown => exact hdown.look_eq (hraw rfl rfl) rfl
  | again c' => exact look_queueInLoop (if_neg (Ne.symm (hraw rfl rfl)))
  | peerClosed hdown => exact hdown.look_eq (fun hc => hnot hc.symm) rfl
  | read hread => rw [look_enterUser, hread.look_eq fun hc => hnot hc.symm]
  | written hwrite => exact hwrite.look_eq fun hc => hnot hc.symm
  | @writtenAll c' n written s₁ hwrite =>
    have hc : c' ≠ c := hnot
    have hsession : (Task.writeCompleteCallback c').session c = none := if_neg hc
    rw [look_queueInLoop hsession, hwrite.look_eq (Ne.symm hc)]
  | userTask => exact look_enterUser
  | userHandler => exact look_enterUser

lemma Called.look_eq {t : Thread} (h : s.Called t c' a s') (hnot : ¬s.Concerns c a) :
    s'.look c = s.look c := by
  cases h with
  | sendQueued _ _ hsend => rw [look_queueInLoop rfl, hsend.look_eq fun hc => hnot hc.symm]
  | sendIgnored _ hsend => exact hsend.look_eq fun hc => hnot hc.symm
  | sendAccepted _ hsend haccept =>
    rw [haccept.look_eq fun hc => hnot hc.symm, hsend.look_eq fun hc => hnot hc.symm]
  | shutdownQueued _ => exact look_queueInLoop rfl
  | shutdownIgnored _ => rfl
  | shutdownRun _ hshutdown => exact hshutdown.look_eq fun hc => hnot hc.symm
  | close => exact look_queueInLoop (if_neg hnot)
  | closeInNextLoop => exact look_queueInLoop rfl

/-- An action takes a task of the connection only if it concerns the connection. -/
lemma Worked.session_eq_none (h : s.Worked i w a s') (hnot : ¬s.Concerns c a) :
    w.session c = none := by
  by_contra hsession
  cases w with
  | task t =>
    rw [Action.eq_task h.work_eq] at hnot
    rcases Task.session_ne_none hsession with rfl | rfl
    · exact hnot (Or.inr (Or.inr rfl))
    · exact hnot (Or.inl rfl)
  | _ => exact hsession rfl

lemma Ready.session_eq_none (r : Ready) : ∀ w ∈ r.work, w.session c = none := by
  intro w hw
  cases r with
  | conn c' read write =>
    have hw : w = .handleRead c' ∨ w = .handleWrite c' := by
      cases read <;> cases write <;> simp_all [Ready.work]
    rcases hw with rfl | rfl <;> rfl
  | acceptor =>
    rw [List.mem_singleton.mp hw]
    rfl
  | other =>
    rw [List.mem_singleton.mp hw]
    rfl

/-- **A step that does not concern the connection** does not change what belongs to it. -/
lemma Outcome.look_eq (h : s.Outcome a s') (hsound : s.Sound) (hc : c < s.created)
    (hnot : ¬s.Concerns c a) : s'.look c = s.look c := by
  have hplaced := hsound.placed
  have hnew : c ≠ s.created := Nat.ne_of_lt hc
  cases h with
  | @start j hj hphase =>
    refine (look_setThread ?_).trans (look_of_eq rfl ?_ rfl)
    · rfl
    · unfold queue
      by_cases hloop : (s.conn c).loop_ = j
      · rw [hloop]
        simp [EventLoop.settid]
      · simp [Function.update_of_ne hloop]
  | @swap j hphase =>
    have hj : (s.conn c).loop_ ≠ j := fun hj => hnot hj.symm
    refine look_of_eq rfl ?_ ?_
    · simp [queue, TcpServer.swap, Function.update_of_ne hj, TcpServer.setThread]
    · simp [batch, TcpServer.swap, hj]
  | endTasks => exact look_setThread rfl
  | @poll j active hallowed =>
    have hphase : (s.thread j).phase = .polling := hallowed.1
    refine look_setThread ?_
    rw [(hplaced.threads j).todo_eq_nil (by rw [hphase]; decide), List.filterMap_nil,
      List.filterMap_eq_nil_iff]
    intro w hw
    obtain ⟨r, -, hr⟩ := List.mem_flatMap.mp hw
    exact r.session_eq_none w hr
  | endHandlers => exact look_setThread rfl
  | userReturns => exact look_setThread rfl
  | @work j w a s' hnext hworked =>
    have hdown : w = .task (.connectDestroyed c) → (s.conn c).state_ = .kDisconnected := by
      rintro rfl
      obtain ⟨st, hst, hfits⟩ := hsound.fits hnext.mem_works rfl
      obtain rfl := Option.some.inj (Stage.stage_work hst)
      exact List.mem_singleton.mp hfits.state
    exact (hworked.look_eq hnot hdown).trans (look_pop hnext (hworked.session_eq_none hnot))
  | acceptQueued hnext => exact (look_queueInLoop rfl).trans (look_withConnection hc)
  | acceptHere hnext hin heffect =>
    rw [look_enterUser, heffect.look_eq hnew, look_withConnection hc]
  | call hholds hcalled => exact hcalled.look_eq hnot
  | queueUser => exact look_queueInLoop rfl
  | retrieve hretrieve => exact hretrieve.look_eq fun hc => hnot hc.symm
  | copyPtr hholds => rfl
  | dropPtr c => rfl

/-! ## Handlers and tasks of the connection -/

/-- What does not show in the look does not show in the face. -/
lemma face_of_look (h : s'.look c = s.look c) : s'.face c = s.face c := congrArg Prod.snd h

/-- A task of the connection is the first of its batch. -/
lemma Next.tasks_head {k : SessionTask} (hnext : s.Next i (.task t)) (hloop : (s.conn c).loop_ = i)
    (ht : (Work.task t).session c = some k) : (s.face c).tasks.head? = some k := by
  show (s.batch c).head? = _
  rw [batch, hloop, hnext.todo_eq, List.filterMap_cons_some ht]
  rfl

/-- A task of the connection is taken off its batch. -/
lemma face_pop {k : SessionTask} (hnext : s.Next i (.task t)) (hloop : (s.conn c).loop_ = i)
    (ht : (Work.task t).session c = some k) :
    (s.pop i).face c = { s.face c with tasks := (s.face c).tasks.tail } := by
  have hbatch : (s.pop i).batch c = (s.batch c).tail := by
    rw [batch, batch, TcpServer.pop, setThread_conn, hloop, setThread_thread_self, hnext.todo_eq,
      List.filterMap_cons_some ht]
    rfl
  show { (s.pop i).face c with tasks := (s.pop i).batch c } = _
  rw [hbatch]
  rfl

/-- The connection callback is called on the way down. -/
lemma callsDown.face_eq {rest : Work} (h : s.callsDown s' i c rest) (hrest : rest.session c = none) :
    s'.face c = (s.face c).disconnect := by
  obtain ⟨s₁, ⟨conn, p, hstep, -, rfl⟩, rfl⟩ := h
  rw [face_of_look look_enterUser, face_of_look (look_pushWork hrest)]
  cases hstep with
  | close i hstate =>
    simp [face, queue, batch, Conversation.disconnect, Channel.isWriting_disableAll]

/-- `handleRead` puts the bytes into the input buffer. -/
lemma handleRead_face {data : Bytes} (hdata : data ≠ []) (h : s.handleRead i c (some data) = .ok s') :
    ∃ input, (s.face c).input_.readFd (some data) = .ok input ∧
      s'.face c = { s.face c with input_ := input } := by
  cases data with
  | nil => exact absurd rfl hdata
  | cons x data =>
    obtain ⟨input, hread, h⟩ := except_bind_eq_ok.mp h
    refine ⟨input, hread, ?_⟩
    rw [← Except.ok.inj h, face_of_look look_enterUser]
    simp [face, queue, batch, setConn]

/-- A connection that is closed by now is left alone. -/
lemma closeInLoop_face (hstate : (s.conn c).state_ = .kConnected ∨ (s.conn c).state_ = .kDisconnected)
    (h : s.closeInLoop i c = .ok s') :
    s'.face c = if (s.face c).connected then (s.face c).disconnect else s.face c := by
  obtain ⟨-, -, h⟩ := except_bind_eq_ok.mp h
  rcases hstate with hstate | hstate
  · have hconnected : (s.face c).connected = true := by simp [face, hstate]
    rw [if_pos (Or.inl hstate)] at h
    rw [if_pos hconnected, (handleClose_ok h).face_eq rfl]
  · have hconnected : ¬(s.face c).connected = true := by simp [face, hstate]
    rw [if_neg (by simp [hstate])] at h
    rw [if_neg hconnected, Except.ok.inj h]

/-- A task of the connection is queued behind its others. -/
lemma face_queueInLoop {k : SessionTask} (ht : t.session c = some k) :
    (s.queueInLoop (s.conn c).loop_ t).face c =
      { s.face c with pendingTasks_ := (s.face c).pendingTasks_ ++ [k] } := by
  have hqueue : (s.queueInLoop (s.conn c).loop_ t).queue c = s.queue c ++ [k] := by
    rw [queue, queueInLoop_conn, queueInLoop_loop_self, queue]
    simp [EventLoop.queueInLoop, EventLoop.wakeup, ht]
  show { (s.queueInLoop (s.conn c).loop_ t).face c with
    pendingTasks_ := (s.queueInLoop (s.conn c).loop_ t).queue c } = _
  rw [hqueue]
  rfl

/-- `handleWrite` does what it does in a conversation. -/
lemma handleWrite_face {written : Option ℕ} (hstate : (s.conn c).state_ ≠ .kDisconnecting)
    (h : s.handleWrite i c written = .ok s') :
    (s.face c).handleWrite s.writeCompleteCallback_ written = .ok (s'.face c) := by
  obtain ⟨-, -, h⟩ := except_bind_eq_ok.mp h
  simp only at h
  have hface : (s.face c).isWriting = (s.conn c).connChannel_.isWriting ∧
      (s.face c).output_ = (s.conn c).output_ := ⟨rfl, rfl⟩
  rw [Conversation.handleWrite, hface.1, hface.2]
  split at h
  · rename_i hwriting
    rw [if_pos hwriting]
    cases hn : (if (s.conn c).output_.readableBytes > 0 then written else some 0) with
    | none =>
      simp only [hn] at h ⊢
      rw [Except.ok.inj h]
    | some n =>
      simp only [hn] at h ⊢
      obtain ⟨output, hretrieve, h⟩ := except_bind_eq_ok.mp h
      simp only [hretrieve, except_ok_bind]
      split at h
      · rename_i hdone
        obtain ⟨s₁, hwrite, h⟩ := except_bind_eq_ok.mp h
        obtain ⟨p, -, hs₁⟩ := updateChannel_ok hwrite
        have hface₁ : s₁.face c = { s.face c with
            output_ := output
            socket := (s.conn c).log.wrote ++ (s.conn c).output_.readable.take n
            isWriting := false } := by
          rw [hs₁]
          simp [face, queue, batch, setConn, touch, Channel.isWriting_enableWriting_false]
        have hloop : (s₁.conn c).loop_ = (s.conn c).loop_ := by
          rw [hs₁]
          simp [setConn, touch]
        have hstate₁ : (s₁.conn c).state_ ≠ .kDisconnecting := by
          rw [hs₁]
          simpa [setConn, touch] using hstate
        have hcallback : s₁.writeCompleteCallback_ = s.writeCompleteCallback_ := by
          rw [hs₁]
          rfl
        rw [hcallback] at h
        rw [if_pos hdone]
        cases hcompletes : s.writeCompleteCallback_ with
        | true =>
          have hsession : (Task.writeCompleteCallback c).session c = some .onWriteComplete :=
            if_pos rfl
          simp only [hcompletes, if_true, queueInLoop_conn, if_neg hstate₁] at h ⊢
          rw [← Except.ok.inj h, ← hloop, face_queueInLoop hsession, hface₁]
          rfl
        | false =>
          simp only [hcompletes, Bool.false_eq_true, if_false, if_neg hstate₁] at h ⊢
          rw [← Except.ok.inj h, hface₁]
          rfl
      · rename_i hleft
        rw [if_neg hleft, ← Except.ok.inj h]
        simp [face, queue, batch, setConn, pure, Except.pure]
  · rename_i hidle
    rw [if_neg hidle, Except.ok.inj h]

/-- The queue becomes the batch. -/
lemma swap_face (hloop : (s.conn c).loop_ = i) :
    (s.swap i).face c = { s.face c with tasks := (s.face c).pendingTasks_, pendingTasks_ := [] } := by
  have hqueue : (s.swap i).queue c = [] := by
    simp [queue, TcpServer.swap, hloop, EventLoop.swapTasks, TcpServer.setThread]
  have hbatch : (s.swap i).batch c = s.queue c := by
    simp [batch, queue, TcpServer.swap, hloop, EventLoop.swapTasks, List.filterMap_map]
    rfl
  show { (s.swap i).face c with
    tasks := (s.swap i).batch c, pendingTasks_ := (s.swap i).queue c } = _
  rw [hqueue, hbatch]
  rfl

/-! ## Calls in a callback of the connection -/

/-- `retrieve` does what it does in a conversation. -/
lemma retrieve_face {len : ℕ} (h : s.exec (.retrieve i c len) = .ok s') :
    (s.face c).call (.retrieve len) = .ok (s'.face c) := by
  obtain ⟨input, hretrieve, h⟩ := except_bind_eq_ok.mp h
  have hface : (s.face c).input_.retrieve len = .ok input := hretrieve
  rw [Conversation.call, hface, ← Except.ok.inj h]
  simp [face, queue, batch, setConn, pure, Except.pure, bind, Except.bind]

/-- `close` does what it does in a conversation. -/
lemma close_face : (s.face c).call .close = .ok ((s.close c).face c) := by
  have hsession : (Task.closeInLoop c).session c = some .closeInLoop := if_pos rfl
  rw [TcpServer.close, face_queueInLoop hsession]
  rfl

/-- `sendInLoop` does what `send` does in a conversation. -/
lemma sendInLoop_face {t : Thread} {msg : Bytes}
    (hstate : (s.conn c).state_ = .kConnected ∨ (s.conn c).state_ = .kDisconnected)
    (h : s.sendInLoop i c t msg = .ok s') : (s.face c).call (.send msg) = .ok (s'.face c) := by
  obtain ⟨-, -, h⟩ := except_bind_eq_ok.mp h
  rw [Conversation.call]
  rcases hstate with hstate | hstate
  · have hconnected : (s.face c).connected = true := by simp [face, hstate]
    rw [if_pos hconnected]
    simp only [hstate, if_true] at h
    obtain ⟨output, happend, h⟩ := except_bind_eq_ok.mp h
    have hface : (s.face c).output_.append msg = .ok output := happend
    rw [hface, except_ok_bind]
    refine congrArg Except.ok ?_
    cases hwriting : (s.conn c).connChannel_.isWriting with
    | true =>
      simp only [hwriting, Bool.not_true, Bool.false_eq_true, if_false] at h
      rw [← Except.ok.inj h]
      simp [face, queue, batch, setConn, hstate, hwriting]
    | false =>
      simp only [hwriting, Bool.not_false, if_true] at h
      obtain ⟨p, -, rfl⟩ := updateChannel_ok h
      simp [face, queue, batch, setConn, touch, hstate]
  · have hconnected : ¬(s.face c).connected = true := by simp [face, hstate]
    rw [if_neg hconnected]
    simp only [hstate, reduceCtorEq, if_false] at h
    rw [← Except.ok.inj h]
    rfl

/-- In its own loop `send` takes the message at once. -/
lemma send_face {msg : Bytes} (hin : (s.loop (s.conn c).loop_).isInLoopThread i = true)
    (hstate : (s.conn c).state_ = .kConnected ∨ (s.conn c).state_ = .kDisconnected)
    (h : s.send (.loop i) c msg = .ok s') : (s.face c).call (.send msg) = .ok (s'.face c) := by
  have hsame : (s.setConn c { s.conn c with
      log.sends := (s.conn c).log.sends ++ [(.loop i, msg)] }).face c = s.face c := by
    simp [face, queue, batch, setConn]
  unfold TcpServer.send at h
  simp only at h
  split at h
  · have hcall := sendInLoop_face (by rw [conn_setConn_self]; exact hstate) h
    rwa [hsame] at hcall
  · rename_i hout
    exact absurd hin hout

/-! ## A connection that is established -/

/-- A connection is established as it was made: nothing has waited for it. -/
lemma established_face (h : s.Effect c (.establish i) s') (htame : (s.conn c).Tame)
    (hqueue : s.queue c = []) (hbatch : s.batch c = []) :
    s'.face c = { context := (), socket := (s.conn c).log.wrote } := by
  obtain ⟨conn, p, hstep, -, rfl⟩ := h
  cases hstep with
  | establish i hstate =>
    obtain ⟨hinput, houtput, hidle⟩ := htame.unused hstate
    unfold queue at hqueue
    unfold batch at hbatch
    simp [face, queue, batch, hinput, houtput, hidle, hqueue, hbatch,
      Channel.isWriting_enableReading]

/-- Tasks that wait for a connection wait for one that is established. -/
lemma nothing_waits (h : ∀ i t, .task t ∈ s.works i → t.session c = none) :
    s.queue c = [] ∧ s.batch c = [] := by
  refine ⟨List.filterMap_eq_nil_iff.mpr fun t ht => ?_, List.filterMap_eq_nil_iff.mpr fun w hw => ?_⟩
  · exact h _ t (List.mem_append_right _ (List.mem_map_of_mem ht))
  · cases w with
    | task t => exact h _ t (List.mem_append_left _ hw)
    | _ => rfl

/-- What is done for a connection before it is established. -/
lemma Tame.up_of_concerns (h : s.Tame) (hsound : s.Sound) (ha : a.Tame) (hallowed : s.allowed a)
    (hconcerns : s.Concerns c a) :
    s.Up c ∨ (∃ i, a = .swap i) ∨ ∃ i, a = .task i (.connectEstablished c) := by
  have hplaced := hsound.placed
  cases a with
  | task i t =>
    rcases hconcerns with hraw | rfl | rfl
    · obtain ⟨c', rfl⟩ := h.raw i t (Next.mem_works hallowed) (by rw [hraw]; nofun)
      obtain rfl : c' = c := Option.some.inj hraw
      exact Or.inl (h.up_task hplaced hallowed (by simp [Task.session]))
    · exact Or.inr (Or.inr ⟨i, rfl⟩)
    · exact Or.inl (h.up_task hplaced hallowed (by simp [Task.session]))
  | handleRead i c' data =>
    cases hconcerns
    exact Or.inl (hsound.up_read hplaced hallowed.1)
  | handleWrite i c' written =>
    cases hconcerns
    exact Or.inl (h.up_write hplaced hallowed.1)
  | send t c' msg =>
    cases hconcerns
    obtain ⟨j, rfl⟩ := ha
    exact Or.inl (h.up_user hplaced (h.user_of_holds hallowed.1))
  | close t c' =>
    cases hconcerns
    obtain ⟨j, rfl⟩ := ha
    exact Or.inl (h.up_user hplaced (h.user_of_holds hallowed))
  | retrieve i c' len =>
    cases hconcerns
    exact Or.inl (h.up_user hplaced hallowed.1)
  | swap i => exact Or.inr (Or.inl ⟨i, rfl⟩)
  | shutdown t c' => exact ha.elim
  | closeInNextLoop t c' => exact ha.elim
  | _ => exact hconcerns.elim

/-- **A connection that is established in a step** is a new one. -/
lemma Outcome.born (houtcome : s.Outcome a s') (h : s.Tame) (hsound : s.Sound) (ha : a.Tame)
    (hallowed : s.allowed a) (hdown : ¬s.Up c) (hup : s'.Up c) :
    (∃ wrote, s'.face c = { context := (), socket := wrote }) ∧
      ((∃ i, a = .task i (.connectEstablished c)) ∨ ∃ i fd, a = .acceptorRead i (some fd)) := by
  have hplaced := hsound.placed
  have hwaits : ∀ i t, .task t ∈ s.works i → t.session c = none := by
    intro i t ht
    by_contra hsession
    exact hdown ⟨(hplaced.session_lives ht hsession).1, h.session i c t ht hsession⟩
  by_cases hc : c < s.created
  · have hconcerns : s.Concerns c a := by
      by_contra hnot
      have hstate : (s'.conn c).state_ = (s.conn c).state_ :=
        congrArg Prod.fst (houtcome.look_eq hsound hc hnot)
      exact hdown ⟨hc, hstate ▸ hup.2⟩
    rcases h.up_of_concerns hsound ha hallowed hconcerns with hbefore | ⟨i, rfl⟩ | ⟨i, rfl⟩
    · exact absurd hbefore hdown
    · cases houtcome with
      | swap hphase => exact absurd ⟨hc, hup.2⟩ hdown
      | work hnext hworked => cases hworked.work_eq
      | call hholds hcalled => cases hcalled
    · refine ⟨?_, Or.inl ⟨i, rfl⟩⟩
      cases houtcome with
      | @work j w a s' hnext hworked =>
        cases hworked with
        | nothing hw hnothing =>
          cases hw
          simp [Task.raw] at hnothing
        | established heffect =>
          have hpop : ∀ {j t}, .task t ∈ (s.pop i).works j → t.session c = none := by
            intro j t ht
            refine hwaits j t ?_
            by_cases hj : j = i
            · subst hj
              rw [works_pop_self hnext]
              exact List.mem_cons_of_mem _ ht
            · rwa [works_pop_ne hj] at ht
          obtain ⟨hqueue, hbatch⟩ := nothing_waits fun _ _ => hpop
          rw [face_of_look look_enterUser]
          exact ⟨_, established_face heffect (h.conns c hc) hqueue hbatch⟩
      | call hholds hcalled => cases hcalled
  · rcases houtcome.stays with ⟨hcounters, -⟩ | ⟨i, fd, rfl, hcounters, -⟩
    · have hcreated : s'.created = s.created := congrArg Prod.fst hcounters
      exact absurd (hcreated ▸ hup.1) hc
    · have hcreated : s'.created = s.created + 1 := congrArg Prod.fst hcounters
      have hlt : c < s.created + 1 := hcreated ▸ hup.1
      obtain rfl := Nat.le_antisymm (Nat.lt_succ_iff.mp hlt) (Nat.le_of_not_lt hc)
      refine ⟨?_, Or.inr ⟨i, fd, rfl⟩⟩
      cases houtcome with
      | acceptQueued hnext =>
        have hstate := hup.2
        rw [queueInLoop_conn] at hstate
        simp [withConnection, opened] at hstate
      | acceptHere hnext hin heffect =>
        obtain ⟨hqueue, hbatch⟩ := nothing_waits (s := s.withConnection fd) hwaits
        have htame : ((s.withConnection fd).conn s.created).Tame := by
          simpa [withConnection] using tame_opened s fd
        rw [face_of_look look_enterUser]
        exact ⟨_, established_face heffect htame hqueue hbatch⟩
      | work hnext hworked => cases hworked.work_eq
      | call hholds hcalled => cases hcalled

end TcpServer
end Miniduo
