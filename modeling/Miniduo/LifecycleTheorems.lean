import Miniduo.StageTheorems
import Miniduo.StreamTheorems

/-!
# The lifecycle of connections

Every assertion that a member function makes about a connection is one of the facts of its stage,
so none of them fails (`exec_safe`). `lifecycle_of_run` puts together what a run shows of a
connection: its state, the calls of the connection callback, the removal from `connections_` and
the end of its channel.
-/

namespace Miniduo

/-! ## Calls that no assertion ends -/

/-- A call that returns, or faults in a `Buffer`. -/
def Safe {α : Type} (x : Except Fault α) : Prop :=
  ∀ f, x = .error f → f = .outOfBounds ∨ f = .lengthError

section
variable {α β : Type}

lemma safe_ok (a : α) : Safe (.ok a : Except Fault α) := fun _ h => nomatch h

lemma safe_of_ok {x : Except Fault α} {a : α} (h : x = .ok a) : Safe x := by
  rw [h]
  exact safe_ok a

/-- Two calls, the second with what the first returns. -/
lemma Safe.bind {x : Except Fault α} {f : α → Except Fault β} (hx : Safe x)
    (hf : ∀ a, x = .ok a → Safe (f a)) : Safe (x >>= f) := by
  cases x with
  | ok a => exact hf a rfl
  | error e =>
    intro e' he
    rw [except_error_bind, Except.error.injEq] at he
    rw [← he]
    exact hx e rfl

/-- An assertion that holds. -/
lemma safe_assertThat {p : Prop} [Decidable p] (h : p) : Safe (assertThat p) := by
  rw [assertThat_pos h]
  exact safe_ok ()

/-- A call of a `Buffer` that fails no assertion of its own. -/
lemma safe_of_total {x : Except Fault α} {P : α → Prop}
    (h : x = .error .outOfBounds ∨ x = .error .lengthError ∨ ∃ a, x = .ok a ∧ P a) : Safe x := by
  intro f hf
  rcases h with h | h | ⟨a, h, -⟩ <;> rw [h] at hf <;> cases hf
  · exact Or.inl rfl
  · exact Or.inr rfl

end

/-- The data that a read handler gets fits behind `input_` and into `extrabuf`. -/
lemma input_step {conn conn' : TcpConnection} {e : ConnEvent} (h : conn.input_.WF)
    (hstep : ConnStep conn e conn')
    (hfits : ∀ data, e = .read data →
      data.length ≤ conn.input_.writableBytes + Buffer.extraSize) : conn'.input_.WF := by
  cases hstep with
  | @read data input hread =>
    rcases Buffer.readFd_total h (hfits data rfl) with heq | heq | ⟨b, heq, hwf⟩
    · rw [heq] at hread
      cases hread
    · rw [heq] at hread
      cases hread
    · rw [heq, Except.ok.injEq] at hread
      rwa [← hread]
  | retrieve hretrieve => exact (Buffer.retrieve_ok h hretrieve).1
  | _ => exact h

namespace TcpServer

variable {s s' : TcpServer} {stage : ConnId → Stage} {i : ℕ} {c : ConnId} {w : Work}

/-! ## One lemma for each member -/

/-- In the thread of the loop the assertion holds. -/
lemma assertInLoopThread_eq {loop_ : ℕ} (h : (s.loop loop_).isInLoopThread i = true) :
    s.assertInLoopThread loop_ i = .ok () := by
  rw [assertInLoopThread, (EventLoop.assertInLoopThread_eq_ok _ _).mpr h]

lemma safe_assertInLoopThread {loop_ : ℕ} (h : (s.loop loop_).isInLoopThread i = true) :
    Safe (s.assertInLoopThread loop_ i) := safe_of_ok (assertInLoopThread_eq h)

lemma addChannel_eq {p : EPollPoller ConnId}
    (h : (s.poller (s.conn c).loop_).addChannel c (s.conn c).connChannel_ = .ok p) :
    s.addChannel c = .ok (s.touch c (s.conn c) p) := by
  simp only [addChannel, h, except_ok_bind, touch, Function.update_eq_self]
  rfl

lemma updateChannel_eq {ch : Channel} {p : EPollPoller ConnId}
    (h : (s.poller (s.conn c).loop_).updateChannel c ch = .ok p) :
    s.updateChannel c ch = .ok (s.touch c { s.conn c with connChannel_ := ch } p) := by
  simp only [updateChannel, h, except_ok_bind]
  rfl

lemma removeChannel_eq {p : EPollPoller ConnId}
    (h : (s.poller (s.conn c).loop_).removeChannel c (s.conn c).connChannel_ = .ok p) :
    s.removeChannel c = .ok (s.touch c (s.conn c) p) := by
  simp only [removeChannel, h, except_ok_bind, touch, Function.update_eq_self]
  rfl

lemma touch_poller_self (s : TcpServer) (c : ConnId) (conn : TcpConnection)
    (p : EPollPoller ConnId) : (s.touch c conn p).poller (s.conn c).loop_ = p :=
  Function.update_self ..

/-- `updateChannel` is as safe as the call of the poller. -/
lemma safe_updateChannel {ch : Channel}
    (h : ∃ p, (s.poller (s.conn c).loop_).updateChannel c ch = .ok p) :
    Safe (s.updateChannel c ch) := by
  obtain ⟨p, hp⟩ := h
  exact safe_of_ok (updateChannel_eq hp)

/-- The entry of the connection in the poller of its loop is that of the stage. -/
def EntryAt (s : TcpServer) (c : ConnId) (st : Stage) : Prop :=
  (s.poller (s.conn c).loop_).entry (s.conn c).connChannel_.fd_ =
    st.entry c (s.conn c).connChannel_.events_

/-- The channel is registered and gets its first interest. -/
lemma connectEstablished_eq (hin : (s.loop (s.conn c).loop_).isInLoopThread i = true)
    (hstate : (s.conn c).state_ = .kConnecting)
    (hmask : (s.conn c).connChannel_.events_ = Channel.kNoneEvent)
    (hentry : (s.poller (s.conn c).loop_).entry (s.conn c).connChannel_.fd_ = (none, none)) :
    s.connectEstablished i c = .ok ((s.touch c { s.conn c with
        state_ := .kConnected
        connChannel_ := (s.conn c).connChannel_.enableReading true
        log.up := (s.conn c).log.up ++ [i] }
      ((s.poller (s.conn c).loop_).setEntry (s.conn c).connChannel_.fd_
        (some (c, .ADDED), some (c, ((s.conn c).connChannel_.enableReading true).events_))
        [⟨.ADD, (s.conn c).connChannel_.fd_, c,
          ((s.conn c).connChannel_.enableReading true).events_⟩])).enterUser i (some c)) := by
  have hnone : (s.conn c).connChannel_.isNoneEvent = true := by
    simp [Channel.isNoneEvent, hmask]
  have hsome : ((s.conn c).connChannel_.enableReading true).isNoneEvent = false := by
    show ((s.conn c).connChannel_.events_ ||| Channel.kReadEvent == Channel.kNoneEvent) = false
    rw [hmask]
    decide
  have hadd : (s.poller (s.conn c).loop_).addChannel c (s.conn c).connChannel_ = .ok _ :=
    EPollPoller.addChannel_none hentry hnone
  have hnew : ((s.poller (s.conn c).loop_).setEntry (s.conn c).connChannel_.fd_
      (some (c, .NEW), none) []).entry ((s.conn c).connChannel_.enableReading true).fd_ =
        (some (c, .NEW), none) := by
    rw [Channel.enableReading_fd, EPollPoller.entry_setEntry_self]
  have hupdate := EPollPoller.updateChannel_add (by decide) hnew hsome
  rw [Channel.enableReading_fd, EPollPoller.setEntry_setEntry, List.nil_append] at hupdate
  -- the three assertions in their order: the thread, `kConnecting`, the table of the poller
  rw [connectEstablished, assertInLoopThread_eq hin, except_ok_bind, assertThat_pos hstate,
    except_ok_bind]
  have hconn : (s.setState c .kConnected).conn c = { s.conn c with state_ := .kConnected } :=
    conn_setConn_self ..
  have hadded := addChannel_eq (s := s.setState c .kConnected) (c := c)
    (by rw [hconn]; exact hadd)
  simp only [hadded, except_ok_bind, enableReading]
  rw [updateChannel_eq (by
    simp only [touch, setState, setConn, Function.update_self]
    exact hupdate)]
  simp [callUp, setState, setConn, touch, enterUser]

/-- `connectEstablished` finds what it asserts in the stage `connecting`. -/
lemma safe_connectEstablished (hin : (s.loop (s.conn c).loop_).isInLoopThread i = true)
    (hfits : Stage.connecting.Fits (s.conn c)) (hentry : s.EntryAt c .connecting) :
    Safe (s.connectEstablished i c) :=
  safe_of_ok (connectEstablished_eq hin (List.mem_singleton.mp hfits.state)
    (List.mem_singleton.mp hfits.mask) hentry)

/-- A connection that is up leaves the kernel's list. -/
lemma handleClose_eq {events : BitVec 32}
    (hin : (s.loop (s.conn c).loop_).isInLoopThread i = true)
    (hstate : (s.conn c).state_ = .kConnected ∨ (s.conn c).state_ = .kDisconnecting)
    (hentry : (s.poller (s.conn c).loop_).entry (s.conn c).connChannel_.fd_ =
      (some (c, .ADDED), some (c, events))) :
    s.handleClose i c = .ok (((s.touch c { s.conn c with
        state_ := .kDisconnected
        connChannel_ := (s.conn c).connChannel_.disableAll
        log.down := (s.conn c).log.down ++ [i] }
      ((s.poller (s.conn c).loop_).setEntry (s.conn c).connChannel_.fd_
        (some (c, .DELETED), none) [⟨.DEL, (s.conn c).connChannel_.fd_, c,
          (s.conn c).connChannel_.disableAll.events_⟩])).pushWork i (.closeCallback c)).enterUser i (some c)) := by
  have hupdate : (s.poller (s.conn c).loop_).updateChannel c (s.conn c).connChannel_.disableAll =
      .ok _ := EPollPoller.updateChannel_del hentry rfl
  rw [handleClose, assertInLoopThread_eq hin, except_ok_bind, assertThat_pos hstate, except_ok_bind]
  have hconn : (s.setState c .kDisconnected).conn c = { s.conn c with state_ := .kDisconnected } :=
    conn_setConn_self ..
  simp only [disableAll]
  rw [updateChannel_eq (s := s.setState c .kDisconnected) (by rw [hconn]; exact hupdate)]
  simp [callDown, setState, setConn, touch, pushWork, setThread, enterUser]

/-- `handleClose` finds what it asserts in the stage `up`. -/
lemma safe_handleClose {reading : Bool}
    (hin : (s.loop (s.conn c).loop_).isInLoopThread i = true)
    (hfits : (Stage.up reading).Fits (s.conn c)) (hentry : s.EntryAt c (.up reading)) :
    Safe (s.handleClose i c) := by
  have hstate : (s.conn c).state_ = .kConnected ∨ (s.conn c).state_ = .kDisconnecting := by
    simpa [Stage.states] using hfits.state
  exact safe_of_ok (handleClose_eq hin hstate hentry)

/-- `closeInLoop` closes a connection that is up, and does nothing in the other stages. -/
lemma safe_closeInLoop (hin : (s.loop (s.conn c).loop_).isInLoopThread i = true)
    (hstaged : s.Staged stage) (hc : c < s.created) : Safe (s.closeInLoop i c) := by
  rw [closeInLoop]
  refine (safe_assertInLoopThread hin).bind fun _ _ => ?_
  split
  · rename_i hstate
    obtain ⟨reading, hst⟩ := (hstaged.fits c hc).eq_up hstate
    have hfits := hstaged.fits c hc
    have hentry := hstaged.entry c hc (by rw [hst]; simp)
    rw [hst] at hfits hentry
    exact safe_handleClose hin hfits hentry
  · exact safe_ok _

/-- Its own `connectDestroyed` finds the connection closed. -/
lemma connectDestroyed_eq (hin : (s.loop (s.conn c).loop_).isInLoopThread i = true)
    (hstate : (s.conn c).state_ = .kDisconnected)
    (hmask : (s.conn c).connChannel_.events_ = Channel.kNoneEvent)
    (hentry : (s.poller (s.conn c).loop_).entry (s.conn c).connChannel_.fd_ =
      (some (c, .DELETED), none)) :
    s.connectDestroyed i c = .ok (s.touch c (s.conn c)
      ((s.poller (s.conn c).loop_).setEntry (s.conn c).connChannel_.fd_ (none, none) [])) := by
  have hnone : (s.conn c).connChannel_.isNoneEvent = true := by
    simp [Channel.isNoneEvent, hmask]
  rw [connectDestroyed, assertInLoopThread_eq hin, except_ok_bind,
    if_neg (by rw [hstate]; decide)]
  exact removeChannel_eq (EPollPoller.removeChannel_deleted hentry hnone)

/-- `connectDestroyed` finds what it asserts in the stage `removed`. -/
lemma safe_connectDestroyed (hin : (s.loop (s.conn c).loop_).isInLoopThread i = true)
    (hfits : Stage.removed.Fits (s.conn c)) (hentry : s.EntryAt c .removed) :
    Safe (s.connectDestroyed i c) :=
  safe_of_ok (connectDestroyed_eq hin (List.mem_singleton.mp hfits.state)
    (List.mem_singleton.mp hfits.mask) hentry)

/-- What `removeConnectionInLoop` does when it finds the name. -/
lemma removeConnectionInLoop_eq (hin : (s.loop 0).isInLoopThread i = true)
    (hmapped : s.connections_ (s.conn c).name_ ≠ none) :
    s.removeConnectionInLoop i c = .ok (((s.setConn c { s.conn c with
        log.removals := (s.conn c).log.removals + 1 }).unmap (s.conn c).name_).queueInLoop
      (s.conn c).loop_ (.connectDestroyed c)) := by
  rw [removeConnectionInLoop, assertInLoopThread_eq hin, except_ok_bind]
  simp only [assertThat_pos hmapped, except_ok_bind]
  rfl

/-- `removeConnectionInLoop` finds the name. -/
lemma safe_removeConnectionInLoop (hin : (s.loop 0).isInLoopThread i = true)
    (hmapped : s.connections_ (s.conn c).name_ = some c) :
    Safe (s.removeConnectionInLoop i c) :=
  safe_of_ok (removeConnectionInLoop_eq hin (by rw [hmapped]; simp))

/-- `shutdownInLoop` asserts the thread only. -/
lemma safe_shutdownInLoop (hin : (s.loop (s.conn c).loop_).isInLoopThread i = true) :
    Safe (s.shutdownInLoop i c) := by
  rw [shutdownInLoop]
  refine (safe_assertInLoopThread hin).bind fun _ _ => ?_
  simp only
  split
  · split <;> exact safe_ok _
  · exact safe_ok _

/-- A connection that is up may change its interest. -/
lemma exists_updateChannel {reading : Bool} (hfits : (Stage.up reading).Fits (s.conn c))
    (hentry : s.EntryAt c (.up reading)) (enable : Bool) :
    ∃ p, (s.poller (s.conn c).loop_).updateChannel c
      ((s.conn c).connChannel_.enableWriting enable) = .ok p := by
  have hsome := Stage.isNoneEvent_of_up (Stage.masks_enableWriting enable hfits.mask)
  have hentry : (s.poller (s.conn c).loop_).entry
      ((s.conn c).connChannel_.enableWriting enable).fd_ =
        (some (c, .ADDED), some (c, (s.conn c).connChannel_.events_)) := by
    rw [Channel.enableWriting_fd]
    exact hentry
  exact ⟨_, EPollPoller.updateChannel_mod hentry hsome⟩

/-- `sendInLoop` finds a channel in the poller whenever it asks for an interest. -/
lemma safe_sendInLoop {t : Thread} {msg : Bytes}
    (hin : (s.loop (s.conn c).loop_).isInLoopThread i = true) (hstaged : s.Staged stage)
    (hc : c < s.created) (hwf : (s.conn c).output_.WF) (hlength : msg.length ≤ maxSize) :
    Safe (s.sendInLoop i c t msg) := by
  rw [sendInLoop]
  refine (safe_assertInLoopThread hin).bind fun _ _ => ?_
  simp only
  split
  · rename_i hstate
    refine (safe_of_total (Buffer.append_total hwf hlength)).bind fun output _ => ?_
    split
    · obtain ⟨reading, hst⟩ := (hstaged.fits c hc).eq_up (Or.inl hstate)
      have hfits := hstaged.fits c hc
      have hentry := hstaged.entry c hc (by rw [hst]; simp)
      rw [hst] at hfits hentry
      refine safe_updateChannel ?_
      rw [conn_setConn_self]
      exact exists_updateChannel hfits hentry true
    · exact safe_ok _
  · exact safe_ok _

/-- `handleRead` finds a connection that is up. -/
lemma safe_handleRead {data : Option Bytes}
    (hin : (s.loop (s.conn c).loop_).isInLoopThread i = true)
    (hfits : (Stage.up true).Fits (s.conn c)) (hentry : s.EntryAt c (.up true))
    (hwf : (s.conn c).input_.WF) (hlength : ∀ bytes ∈ data,
      bytes.length ≤ (s.conn c).input_.writableBytes + Buffer.extraSize) :
    Safe (s.handleRead i c data) := by
  unfold handleRead
  split
  · exact safe_ok _
  · exact safe_handleClose hin hfits hentry
  · exact (safe_of_total (Buffer.readFd_total hwf (hlength _ rfl))).bind fun _ _ => safe_ok _

/-- A task in a queue does not change the thread of a loop. -/
lemma queueInLoop_isInLoopThread {j k : ℕ} {t : Task} {tid : ℤ} :
    ((s.queueInLoop j t).loop k).isInLoopThread tid = (s.loop k).isInLoopThread tid := by
  rw [EventLoop.isInLoopThread, EventLoop.isInLoopThread, queueInLoop_stoplooping, queueInLoop_tid]

/-- What `write` takes is in the buffer, and a connection with write interest is up. -/
lemma safe_handleWrite {written : Option ℕ}
    (hin : (s.loop (s.conn c).loop_).isInLoopThread i = true) (hstaged : s.Staged stage)
    (hc : c < s.created) (hwf : (s.conn c).output_.WF)
    (hwritten : ∀ n ∈ written, n ≤ (s.conn c).output_.readableBytes) :
    Safe (s.handleWrite i c written) := by
  rw [handleWrite]
  refine (safe_assertInLoopThread hin).bind fun _ _ => ?_
  simp only
  split
  · rename_i hwriting
    obtain ⟨reading, hst⟩ := (hstaged.fits c hc).eq_up_of_writing hwriting
    have hfits := hstaged.fits c hc
    have hentry := hstaged.entry c hc (by rw [hst]; simp)
    rw [hst] at hfits hentry
    split
    · exact safe_ok _
    · rename_i n hn
      have hle : n ≤ (s.conn c).output_.readableBytes := by
        split at hn
        · exact hwritten n hn
        · rw [← Option.some.inj hn]
          exact Nat.zero_le _
      -- `retrieve` asserts that `write` took no more than there was
      obtain ⟨output, hretrieve, -⟩ := hwf.inBounds.retrieve_spec hle
      refine (safe_of_ok hretrieve).bind fun output' _ => ?_
      split
      · refine Safe.bind (safe_updateChannel ?_) fun s₁ hs₁ => ?_
        · rw [conn_setConn_self]
          exact exists_updateChannel hfits hentry false
        · -- the half-close that waited for the last byte asserts the thread once more
          obtain ⟨p, -, hs₁⟩ := updateChannel_ok hs₁
          have hloop : s₁.loop = s.loop := by
            rw [hs₁]
            rfl
          have hown : (s₁.conn c).loop_ = (s.conn c).loop_ := by
            rw [hs₁, touch_conn_self, conn_setConn_self]
          have hin₁ : (s₁.loop (s₁.conn c).loop_).isInLoopThread i = true := by
            rw [hloop, hown]
            exact hin
          split <;> split
          · refine safe_shutdownInLoop ?_
            rw [queueInLoop_isInLoopThread]
            exact hin₁
          · exact safe_ok _
          · exact safe_shutdownInLoop hin₁
          · exact safe_ok _
      · exact safe_ok _
  · exact safe_ok _

/-! ## No assertion fails -/

/-- What a member function of the connection can rely on in a loop thread at work. -/
lemma Next.inOwnLoop (hnext : s.Next i w) (hplaced : s.Placed) (hc : s.Lives c i) :
    (s.loop (s.conn c).loop_).isInLoopThread i = true := by
  rw [hc.2]
  exact hnext.inLoop hplaced

/-- The buffers of the connections are well formed. -/
def Buffered (s : TcpServer) : Prop := ∀ c < s.created, (s.conn c).input_.WF ∧ (s.conn c).output_.WF

/-- A task that is next finds its connection in the stage that it needs. -/
lemma safe_runTask {t : Task} (hplaced : s.Placed) (hbuffered : s.Buffered)
    (hlifecycle : s.Lifecycle stage) (hnext : s.Next i (.task t)) : Safe ((s.pop i).runTask i t) := by
  have hat : s.TaskAt i t := hplaced.workAt hnext
  have hown : ∀ {c}, s.Lives c i → ((s.pop i).loop ((s.pop i).conn c).loop_).isInLoopThread i = true :=
    fun hc => hnext.inOwnLoop hplaced hc
  cases t with
  | connectEstablished c =>
    obtain ⟨hst, -, hvacant⟩ := hlifecycle.take hat.1 hnext rfl
    have hst : stage c = .connecting := (Option.some.inj hst).symm
    have hfits := hvacant.fits c hat.1
    have hentry := hvacant.entry c hat.1 (by rw [hst]; decide)
    rw [hst] at hfits hentry
    exact safe_connectEstablished (hown hat) hfits hentry
  | connectDestroyed c =>
    obtain ⟨hst, -, hvacant⟩ := hlifecycle.take hat.1 hnext rfl
    have hst : stage c = .removed := (Option.some.inj hst).symm
    have hfits := hvacant.fits c hat.1
    have hentry := hvacant.entry c hat.1 (by rw [hst]; decide)
    rw [hst] at hfits hentry
    exact safe_connectDestroyed (hown hat) hfits hentry
  | removeConnectionInLoop c =>
    obtain ⟨hst, -, hvacant⟩ := hlifecycle.take hat.1 hnext rfl
    have hst : stage c = .removing := (Option.some.inj hst).symm
    refine safe_removeConnectionInLoop ?_ (hvacant.mapped c hat.1 (by rw [hst]; rfl))
    have hin := hnext.inLoop hplaced
    rw [hat.2] at hin ⊢
    exact hin
  | writeCompleteCallback c => exact safe_ok _
  | sendInLoop c t msg =>
    exact safe_sendInLoop (hown hat.1) (hlifecycle.pop hnext rfl).toStaged hat.1.1
      (hbuffered c hat.1.1).2 hat.2.2
  | shutdownInLoop c => exact safe_shutdownInLoop (hown hat)
  | closeInLoop c => exact safe_closeInLoop (hown hat) (hlifecycle.pop hnext rfl).toStaged hat.1
  | closeInNextLoop c => exact safe_ok _
  | user => exact safe_ok _

/-- `newConnection` finds its name and its descriptor free. -/
lemma safe_newConnection {fd : ℕ} (hplaced : s.Placed)
    (hvacant : (s.withConnection fd).Vacant (Function.update stage s.created .connecting) s.created)
    (hnext : s.Next i .acceptorRead) : Safe (s.newConnection i fd) := by
  have hi : i = 0 := hplaced.workAt hnext
  have hloop := (lives_created (s := s) fd).2
  rw [newConnection_eq]
  refine (safe_assertInLoopThread ?_).bind fun _ _ => ?_
  · have hin := hnext.inLoop hplaced
    rw [hi] at hin ⊢
    exact hin
  · split
    · rename_i hin
      have hfits := hvacant.fits s.created hvacant.exists_
      have hentry := hvacant.entry s.created hvacant.exists_ (by rw [Function.update_self]; decide)
      rw [Function.update_self] at hfits hentry
      exact safe_connectEstablished (by rw [hloop]; exact hin) hfits hentry
    · exact safe_ok _

/-- The close callback finds the name in `connections_`, or queues the removal. -/
lemma safe_removeConnection (hnext : s.Next i (.closeCallback c))
    (hlifecycle : s.Lifecycle stage) (hc : c < s.created) :
    Safe ((s.pop i).removeConnection i c) := by
  obtain ⟨hst, -, hvacant⟩ := hlifecycle.take hc hnext rfl
  have hst : stage c = .closing := (Option.some.inj hst).symm
  rw [removeConnection]
  split
  · rename_i hin
    exact safe_removeConnectionInLoop hin (hvacant.mapped c hc (by rw [hst]; rfl))
  · exact safe_ok _

/-- The channels that `poll` reports are in the table. -/
lemma Staged.registered (h : s.Staged stage) (hplaced : s.Placed) {r : Ready}
    (hready : s.ReadyIn i r) : s.Registered i r := by
  cases r with
  | conn c read write =>
    unfold ReadyIn at hready
    simp only at hready
    split at hready
    · rename_i ptr events hepoll
      obtain ⟨rfl, -, -⟩ := hready
      obtain ⟨hc, rfl⟩ := hplaced.kernel i _ _ events hepoll
      obtain ⟨reading, hst⟩ := h.up_of_epoll hplaced hepoll
      have hentry := congrArg Prod.fst (h.entry _ hc (by rw [hst]; simp))
      rw [hst] at hentry
      have hentry : (s.poller _).channels_ _ = some (_, ChannelState.ADDED) := hentry
      show ((s.poller _).channels_ _).map Prod.fst = _
      rw [hentry]
      rfl
    · exact hready.elim
  | acceptor => trivial
  | other => trivial

/-- `send` fails no assertion in any thread. -/
lemma safe_send {t : Thread} {msg : Bytes} (hplaced : s.Placed) (hbuffered : s.Buffered)
    (hstaged : s.Staged stage) (hc : c < s.created) (hlength : msg.length ≤ maxSize) :
    Safe (s.send t c msg) := by
  rw [send]
  simp only
  split
  · rename_i hin
    have heffect : s.Effect c (.send t msg) (s.setConn c { s.conn c with
        log.sends := (s.conn c).log.sends ++ [(t, msg)] }) :=
      effect_setConn (.send t msg) ⟨rfl, rfl⟩
    obtain rfl := hplaced.thread_eq hin
    refine safe_sendInLoop ?_ (hstaged.effect hc (by simp [Stage.Stays]) heffect) hc ?_ hlength
    · rw [conn_setConn_self]
      exact hin
    · rw [conn_setConn_self]
      exact (hbuffered c hc).2
  · exact safe_ok _

lemma safe_shutdown {t : Thread} (hplaced : s.Placed) : Safe (s.shutdown t c) := by
  rw [shutdown]
  split
  · rename_i hin
    obtain rfl := hplaced.thread_eq hin
    exact safe_shutdownInLoop hin
  · exact safe_ok _

/-- **No action fails an assertion.** What remains are the faults of `Buffer`. -/
theorem exec_safe {a : Action} (hplaced : s.Placed) (hbuffered : s.Buffered)
    (hlifecycle : s.Lifecycle stage) (hfree : s.FindsFree a) (hallowed : s.allowed a) :
    Safe (s.exec a) := by
  cases a with
  | start i => exact safe_of_ok (hplaced.start_eq hallowed.2)
  | task i t => exact safe_runTask hplaced hbuffered hlifecycle hallowed
  | poll i active =>
    exact (safe_assertThat fun r hr => hlifecycle.registered hplaced (hallowed.2.2.2 r hr)).bind
      fun _ _ => safe_ok _
  | acceptorRead i connfd =>
    cases connfd with
    | none => exact safe_ok _
    | some fd =>
      exact safe_newConnection hplaced
        (hlifecycle.withConnection hplaced hfree (hallowed.2 fd rfl)) hallowed.1
  | handleRead i c data =>
    obtain ⟨hnext, hlength⟩ := hallowed
    have hat : s.Lives c i := hplaced.workAt hnext
    obtain ⟨hst, -, hvacant⟩ := hlifecycle.take hat.1 hnext rfl
    have hst : stage c = .up true := (Option.some.inj hst).symm
    have hfits := hvacant.fits c hat.1
    have hentry := hvacant.entry c hat.1 (by rw [hst]; decide)
    rw [hst] at hfits hentry
    exact safe_handleRead (hnext.inOwnLoop hplaced hat) hfits hentry (hbuffered c hat.1).1 hlength
  | handleWrite i c written =>
    obtain ⟨hnext, hwritten⟩ := hallowed
    have hat : s.Lives c i := hplaced.workAt hnext
    exact safe_handleWrite (hnext.inOwnLoop hplaced hat) (hlifecycle.pop hnext rfl).toStaged hat.1
      (hbuffered c hat.1).2 hwritten
  | closeCallback i c =>
    exact safe_removeConnection hallowed hlifecycle
      (show s.Lives c i from hplaced.workAt hallowed).1
  | removeChannel i c =>
    -- no stage has such work
    have hat : s.Lives c i := hplaced.workAt hallowed
    obtain ⟨hst, -, -⟩ := hlifecycle.take hat.1 hallowed rfl
    cases hst
  | send t c msg =>
    exact safe_send hplaced hbuffered hlifecycle.toStaged (hplaced.holds hallowed.1) hallowed.2
  | shutdown t c => exact safe_shutdown hplaced
  | retrieve i c len =>
    obtain ⟨huser, hlen⟩ := hallowed
    obtain ⟨input, hretrieve, -⟩ :=
      (hbuffered c (hplaced.user i c huser).1).1.inBounds.retrieve_spec hlen
    exact (safe_of_ok hretrieve).bind fun _ _ => safe_ok _
  | swap | endTasks | userHandler | endHandlers | userReturns | close | closeInNextLoop
  | queueUser | copyPtr | dropPtr => exact safe_ok _

end TcpServer

/-! ## What a run shows of a connection -/

/-- The changes of the state of a connection. -/
inductive StateE.Next : StateE → StateE → Prop
  | established : StateE.Next .kConnecting .kConnected
  | shutdown : StateE.Next .kConnected .kDisconnecting
  | closed {state : StateE} (hstate : state = .kConnected ∨ state = .kDisconnecting) :
    StateE.Next state .kDisconnected

/-- The connection callback has been called once on the way up, once on the way down when the
connection is closed, and each time in the loop of the connection. -/
structure CalledBack (conn : TcpConnection) : Prop where
  up : conn.log.up = if conn.state_ = .kConnecting then [] else [conn.loop_]
  down : conn.log.down = if conn.state_ = .kDisconnected then [conn.loop_] else []
  removals : conn.log.removals ≤ 1

/-- The calls of the connection callback can be read off the stage. -/
lemma Stage.Fits.calledBack {st : Stage} {conn : TcpConnection} (h : st.Fits conn) :
    CalledBack conn := by
  obtain ⟨hstate, hup, hdown, hremovals, -⟩ := h
  have hle : conn.log.removals ≤ 1 := by
    rw [hremovals]
    cases st <;> simp [Stage.removals]
  cases st with
  | connecting =>
    have hstate : conn.state_ = .kConnecting := List.mem_singleton.mp hstate
    refine ⟨?_, ?_, hle⟩
    · rw [hup, hstate]
      rfl
    · rw [hdown, hstate]
      rfl
  | up reading =>
    have hstate : conn.state_ = .kConnected ∨ conn.state_ = .kDisconnecting := by
      simpa [Stage.states] using hstate
    refine ⟨?_, ?_, hle⟩
    · rcases hstate with hstate | hstate <;> rw [hup, hstate] <;> rfl
    · rcases hstate with hstate | hstate <;> rw [hdown, hstate] <;> rfl
  | closing | removing | removed | gone =>
    have hstate : conn.state_ = .kDisconnected := List.mem_singleton.mp hstate
    refine ⟨?_, ?_, hle⟩
    · rw [hup, hstate]
      rfl
    · rw [hdown, hstate]
      rfl

/-- An event takes the state of a connection forward. -/
lemma ConnStep.forward {conn conn' : TcpConnection} {e : ConnEvent} (h : ConnStep conn e conn') :
    Relation.ReflTransGen StateE.Next conn.state_ conn'.state_ := by
  cases h with
  | shutdownNow hstate hidle =>
    rw [hstate]
    exact .single .shutdown
  | shutdownLater hstate hwriting =>
    rw [hstate]
    exact .single .shutdown
  | establish i hstate =>
    rw [hstate]
    exact .single .established
  | close i hstate => exact .single (.closed hstate)
  | _ => exact .refl

namespace TcpServer

variable {s s' : TcpServer} {stage : ConnId → Stage} {i : ℕ} {c : ConnId}
  {size_ : ℕ} {name_ : Bytes} {callback : Bool} {as : List Action}

/-- Fewer than `2 ^ 31` connections are accepted, and tasks run on live connections. -/
def InScope (s : TcpServer) (a : Action) : Prop := s.Few a ∧ s.RunsOnLive a

instance (s : TcpServer) (a : Action) : Decidable (s.InScope a) := inferInstanceAs (Decidable (_ ∧ _))

/-- The action runs `removeConnectionInLoop` of the connection. -/
def RunsRemoveConnectionInLoop (s : TcpServer) (a : Action) (c : ConnId) : Prop :=
  (∃ i, a = .task i (.removeConnectionInLoop c)) ∨
    ∃ i : ℕ, a = .closeCallback i c ∧ (s.loop 0).isInLoopThread i = true

/-- What the next action does to the connections. -/
structure Proper (s : TcpServer) (a : Action) : Prop where
  /-- No assertion fails. -/
  safe : Safe (s.exec a)
  forward : ∀ s', s.exec a = .ok s' → ∀ c < s.created,
    Relation.ReflTransGen StateE.Next (s.conn c).state_ (s'.conn c).state_
  /-- `removeConnectionInLoop` runs for the first time and finds the connection. -/
  removal : ∀ c, s.RunsRemoveConnectionInLoop a c →
    (s.conn c).log.removals = 0 ∧ s.connections_ (s.conn c).name_ = some c
  /-- `connectDestroyed` runs behind it and finds a registered channel without interest. -/
  destroyed : ∀ i c, a = .task i (.connectDestroyed c) → (s.conn c).log.removals = 1 ∧
    ((s.poller (s.conn c).loop_).channels_ (s.conn c).connChannel_.fd_).map Prod.fst = some c ∧
    (s.conn c).connChannel_.isNoneEvent = true

/-- The buffers stay well formed in every run. -/
lemma buffered_of_run (hrun : machine.Run (initial size_ name_ callback) as s) : s.Buffered := by
  have hplaced := placed_steps (P := fun _ _ => True) hrun (.of_forall fun _ _ => trivial)
  have hinput : ∀ c < s.created, (s.conn c).input_.WF := by
    refine conn_invariant (Q := fun conn => conn.input_.WF) hrun hplaced
      (fun _ _ => Buffer.fresh_wf) ?_
    intro s a c conn e conn' hP hwf hcauses hstep
    refine input_step hwf hstep fun data he => ?_
    rw [he] at hcauses
    obtain ⟨⟨i, rfl⟩, rfl⟩ := hcauses
    exact hP.2.1.2 data rfl
  exact fun c hc => ⟨hinput c hc, (flow_of_run hrun c hc).output⟩

/-- The work of a connection that is closed finds it as its stage says. -/
lemma Lifecycle.removes {a : Action} (h : s.Lifecycle stage) (hplaced : s.Placed)
    (hallowed : s.allowed a) (hremoves : a.Removes c) :
    (s.conn c).log.removals = 0 ∧ s.connections_ (s.conn c).name_ = some c := by
  have hzero : c < s.created ∧ (stage c).removals = 0 := by
    obtain ⟨i, rfl | rfl⟩ := hremoves
    · have hat : s.TaskAt i (.removeConnectionInLoop c) := hplaced.workAt hallowed
      obtain ⟨hst, -, -⟩ := h.take hat.1 hallowed rfl
      rw [← Option.some.inj hst]
      exact ⟨hat.1, rfl⟩
    · have hat : s.Lives c i := hplaced.workAt hallowed
      obtain ⟨hst, -, -⟩ := h.take hat.1 hallowed rfl
      rw [← Option.some.inj hst]
      exact ⟨hat.1, rfl⟩
  obtain ⟨hc, hzero⟩ := hzero
  exact ⟨(h.fits c hc).removals.trans hzero, h.mapped c hc hzero⟩

/-- `removeConnectionInLoop` runs as a task or in the close callback. -/
lemma RunsRemoveConnectionInLoop.removes {a : Action} (h : s.RunsRemoveConnectionInLoop a c) :
    a.Removes c := by
  rcases h with ⟨i, ha⟩ | ⟨i, ha, -⟩
  · exact ⟨i, Or.inl ha⟩
  · exact ⟨i, Or.inr ha⟩

/-- `connectDestroyed` comes behind the one removal, and finds a channel without interest. -/
lemma Lifecycle.destroyed (h : s.Lifecycle stage) (hplaced : s.Placed)
    (hallowed : s.allowed (.task i (.connectDestroyed c))) : (s.conn c).log.removals = 1 ∧
    ((s.poller (s.conn c).loop_).channels_ (s.conn c).connChannel_.fd_).map Prod.fst = some c ∧
    (s.conn c).connChannel_.isNoneEvent = true := by
  have hat : s.Lives c i := hplaced.workAt hallowed
  obtain ⟨hst, -, -⟩ := h.take hat.1 hallowed rfl
  have hst : stage c = .removed := (Option.some.inj hst).symm
  have hfits := h.fits c hat.1
  have hentry := congrArg Prod.fst (h.entry c hat.1 (by rw [hst]; decide))
  rw [hst] at hfits hentry
  have hentry : (s.poller _).channels_ _ = some (c, ChannelState.DELETED) := hentry
  have hmask : (s.conn c).connChannel_.events_ = Channel.kNoneEvent :=
    List.mem_singleton.mp hfits.mask
  refine ⟨hfits.removals, ?_, by simp [Channel.isNoneEvent, hmask]⟩
  rw [hentry]
  rfl

/-- **The lifecycle of every connection**, in every run in which fewer than `2 ^ 31` connections are
accepted and tasks run on live connections. -/
theorem lifecycle_of_run (hrun : machine.Run (initial size_ name_ callback) as s)
    (hsteps : machine.AllSteps InScope (initial size_ name_ callback) as) :
    (∀ c < s.created, CalledBack (s.conn c)) ∧
      ∀ a, s.allowed a → s.InScope a → s.Proper a := by
  obtain ⟨hplaced, hnamed, stage, hlifecycle⟩ := sound_of_run hrun hsteps fun s a h => h.1
  refine ⟨fun c hc => (hlifecycle.fits c hc).calledBack, fun a hallowed hscope => ?_⟩
  have hfree : s.FindsFree a :=
    hscope.1.recycled.findsFree hnamed.numbered (names_of_run hrun).2
  refine ⟨exec_safe hplaced (buffered_of_run hrun) hlifecycle hfree hallowed, ?_,
    fun c hruns => hlifecycle.removes hplaced hallowed hruns.removes, ?_⟩
  · intro s' hexec c hc
    exact ((exec_outcome hallowed hexec).conn_steps hc).invariant
      (Q := fun conn => Relation.ReflTransGen StateE.Next (s.conn c).state_ conn.state_) .refl
      fun _ _ _ hforward _ hstep => hforward.trans hstep.forward
  · rintro i c rfl
    exact hlifecycle.destroyed hplaced hallowed

/-- The acceptor's loop and one other: a connection is made in the one and closed by the peer in the
other. -/
def closeAcrossLoops : List Action :=
  [.start 0, .start 1, .swap 0, .endTasks 0, .poll 0 [.acceptor], .acceptorRead 0 (some 7),
    .swap 1, .task 1 (.connectEstablished 0), .userReturns 1, .endTasks 1,
    .poll 1 [.conn 0 true false], .handleRead 1 0 (some []), .userReturns 1, .closeCallback 1 0,
    .acceptorRead 0 none, .endHandlers 0, .swap 0, .task 0 (.removeConnectionInLoop 0),
    .endHandlers 1, .swap 1]

theorem lifecycle_closeAcrossLoops :
    ∃ s, machine.Run (initial 1 [] false) closeAcrossLoops s ∧
      machine.AllSteps InScope (initial 1 [] false) closeAcrossLoops ∧
      ((∀ c < s.created, CalledBack (s.conn c)) ∧
        ∀ a, s.allowed a → s.InScope a → s.Proper a) := by
  obtain ⟨s, hrun, -⟩ := Machine.Run.of_replay_map machine (initial 1 [] false) closeAcrossLoops
    (fun _ => true) (by decide +kernel)
  have hsteps : machine.AllSteps InScope (initial 1 [] false) closeAcrossLoops := by
    decide +kernel
  exact ⟨s, hrun, hsteps, lifecycle_of_run hrun hsteps⟩

end TcpServer
end Miniduo
