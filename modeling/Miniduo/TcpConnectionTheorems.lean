import Miniduo.BufferTheorems
import Miniduo.TcpConnection

/-!
# What the members of `TcpConnection` can do

A member function that returns has changed its connection by one of the events of `ConnStep`, has
perhaps called the poller of the connection's loop, and has queued a task or entered user code. One
lemma for each member says which; nothing after this file unfolds a member again to read off its
result.
-/

namespace Miniduo

/-! ## Events of one connection -/

/-- What can happen to a connection. `accept` is what `sendInLoop` does with a message, `removal`
that its name is erased from `connections_`. -/
inductive ConnEvent
  | send (t : Thread) (msg : Bytes)
  | accept (t : Thread) (msg : Bytes)
  | shutdown
  | write (n : ℕ)
  | establish (i : ℕ)
  | close (i : ℕ)
  | read (data : Bytes)
  | retrieve (len : ℕ)
  | removal
deriving Repr, DecidableEq

/-- What an event makes of the connection. -/
inductive ConnStep (conn : TcpConnection) : ConnEvent → TcpConnection → Prop
  | send (t : Thread) (msg : Bytes) :
    ConnStep conn (.send t msg) { conn with log.sends := conn.log.sends ++ [(t, msg)] }
  | accept (t : Thread) {msg : Bytes} {output : Buffer} (hstate : conn.state_ = .kConnected)
      (happend : conn.output_.append msg = .ok output) :
    ConnStep conn (.accept t msg) { conn with
      output_ := output
      connChannel_ := if conn.connChannel_.isWriting then conn.connChannel_
        else conn.connChannel_.enableWriting true
      log.accepted := conn.log.accepted ++ [(t, msg)] }
  /-- Nothing is being written: the half-close is immediate. -/
  | shutdownNow (hstate : conn.state_ = .kConnected) (hidle : conn.connChannel_.isWriting = false) :
    ConnStep conn .shutdown { conn with
      state_ := .kDisconnecting
      log.shutdownWrites := conn.log.shutdownWrites ++ [conn.output_.readableBytes] }
  /-- Something is being written: the half-close is left to `handleWrite`. -/
  | shutdownLater (hstate : conn.state_ = .kConnected)
      (hwriting : conn.connChannel_.isWriting = true) :
    ConnStep conn .shutdown { conn with state_ := .kDisconnecting }
  | writePart {n : ℕ} {output : Buffer} (hwriting : conn.connChannel_.isWriting = true)
      (hretrieve : conn.output_.retrieve n = .ok output) (hleft : output.readableBytes ≠ 0) :
    ConnStep conn (.write n) { conn with
      output_ := output
      log.wrote := conn.log.wrote ++ conn.output_.readable.take n }
  | writeAll {n : ℕ} {output : Buffer} (hwriting : conn.connChannel_.isWriting = true)
      (hretrieve : conn.output_.retrieve n = .ok output) (hdone : output.readableBytes = 0) :
    ConnStep conn (.write n) { conn with
      output_ := output
      connChannel_ := conn.connChannel_.enableWriting false
      log.wrote := conn.log.wrote ++ conn.output_.readable.take n }
  | establish (i : ℕ) (hstate : conn.state_ = .kConnecting) :
    ConnStep conn (.establish i) { conn with
      state_ := .kConnected
      connChannel_ := conn.connChannel_.enableReading true
      log.up := conn.log.up ++ [i] }
  | close (i : ℕ) (hstate : conn.state_ = .kConnected ∨ conn.state_ = .kDisconnecting) :
    ConnStep conn (.close i) { conn with
      state_ := .kDisconnected
      connChannel_ := conn.connChannel_.disableAll
      log.down := conn.log.down ++ [i] }
  | read {data : Bytes} {input : Buffer} (hread : conn.input_.readFd (some data) = .ok input) :
    ConnStep conn (.read data) { conn with input_ := input }
  | retrieve {len : ℕ} {input : Buffer} (hretrieve : conn.input_.retrieve len = .ok input) :
    ConnStep conn (.retrieve len) { conn with input_ := input }
  | removal : ConnStep conn .removal { conn with log.removals := conn.log.removals + 1 }

/-- What the poller of the connection's loop is called with in an event that takes the channel of
the connection from `ch` to `ch'`. -/
def ConnEvent.Polled (p : EPollPoller ConnId) (c : ConnId) (ch ch' : Channel)
    (p' : EPollPoller ConnId) : ConnEvent → Prop
  | .establish _ => ∃ p₁, p.addChannel c ch = .ok p₁ ∧ p₁.updateChannel c ch' = .ok p'
  | .close _ => p.updateChannel c ch' = .ok p'
  | .accept _ _ | .write _ => p.updateChannel c ch' = .ok p' ∨ (ch' = ch ∧ p' = p)
  | _ => ch' = ch ∧ p' = p

/-- A number of events, all of a kind. -/
inductive ConnSteps (P : TcpConnection → ConnEvent → Prop) (conn : TcpConnection) :
    TcpConnection → Prop
  | refl : ConnSteps P conn conn
  | tail {conn' conn'' : TcpConnection} {e : ConnEvent} (hsteps : ConnSteps P conn conn')
      (hkind : P conn' e) (hstep : ConnStep conn' e conn'') : ConnSteps P conn conn''

section
variable {conn conn' conn'' : TcpConnection} {e : ConnEvent}
  {P : TcpConnection → ConnEvent → Prop}

/-- A connection stays with its loop. -/
lemma ConnStep.loop_eq (h : ConnStep conn e conn') : conn'.loop_ = conn.loop_ := by
  cases h <;> rfl

/-- A connection keeps its name. -/
lemma ConnStep.name_eq (h : ConnStep conn e conn') : conn'.name_ = conn.name_ := by
  cases h <;> rfl

/-- The channel of a connection keeps its descriptor, whatever its interest. -/
lemma ConnStep.fd_eq (h : ConnStep conn e conn') :
    conn'.connChannel_.fd_ = conn.connChannel_.fd_ := by
  cases h with
  | accept t hstate happend => simp only; split <;> simp
  | writeAll hwriting hretrieve hdone => simp
  | establish i hstate => simp
  | close i hstate => simp
  | _ => rfl

/-- No other connection becomes known to the kernel. -/
lemma ConnEvent.Polled.learns {p p' : EPollPoller ConnId} {c : ConnId} {ch ch' : Channel}
    (h : e.Polled p c ch ch' p') : p.Learns c p' := by
  have hsame : ∀ {q : EPollPoller ConnId}, q = p → p.Learns c q := fun hq => hq ▸ .refl p c
  cases e with
  | establish i =>
    obtain ⟨p₁, hadd, hupdate⟩ := h
    exact (EPollPoller.addChannel_learns hadd).trans (EPollPoller.updateChannel_learns hupdate)
  | close i => exact EPollPoller.updateChannel_learns h
  | accept t msg => exact h.elim EPollPoller.updateChannel_learns fun h => hsame h.2
  | write n => exact h.elim EPollPoller.updateChannel_learns fun h => hsame h.2
  | _ => exact hsame h.2

lemma ConnStep.steps (h : ConnStep conn e conn') (hP : P conn e) : ConnSteps P conn conn' :=
  .tail .refl hP h

lemma ConnSteps.trans (h : ConnSteps P conn conn') (h' : ConnSteps P conn' conn'') :
    ConnSteps P conn conn'' := by
  induction h' with
  | refl => exact h
  | tail _ hkind hstep ih => exact .tail ih hkind hstep

/-- Events of a kind are of every wider kind. -/
lemma ConnSteps.mono {P' : TcpConnection → ConnEvent → Prop} (h : ConnSteps P conn conn')
    (hP : ∀ conn e, P conn e → P' conn e) : ConnSteps P' conn conn' := by
  induction h with
  | refl => exact .refl
  | tail _ hkind hstep ih => exact .tail ih (hP _ _ hkind) hstep

/-- What every event of the kind preserves. -/
lemma ConnSteps.invariant {Q : TcpConnection → Prop} (h : ConnSteps P conn conn') (hQ : Q conn)
    (hstep : ∀ conn e conn', Q conn → P conn e → ConnStep conn e conn' → Q conn') : Q conn' := by
  induction h with
  | refl => exact hQ
  | tail _ hkind hs ih => exact hstep _ _ _ ih hkind hs

end

namespace TcpServer

/-! ## A changed connection -/

/-- The server with another value of a connection and another poller of the connection's loop. -/
def touch (s : TcpServer) (c : ConnId) (conn : TcpConnection) (p : EPollPoller ConnId) :
    TcpServer :=
  { s with
    conn := Function.update s.conn c conn
    poller := Function.update s.poller (s.conn c).loop_ p }

section
variable (s : TcpServer) (c : ConnId) (conn : TcpConnection) (p : EPollPoller ConnId)

@[simp] lemma touch_conn_self : (s.touch c conn p).conn c = conn := Function.update_self ..

@[simp] lemma touch_conn_ne {c' : ConnId} (h : c' ≠ c) :
    (s.touch c conn p).conn c' = s.conn c' := Function.update_of_ne h ..

/-- `touch` leaves everything but a connection and a poller as it is. -/
@[simp] lemma touch_loop : (s.touch c conn p).loop = s.loop := rfl
@[simp] lemma touch_thread : (s.touch c conn p).thread = s.thread := rfl
@[simp] lemma touch_connections : (s.touch c conn p).connections_ = s.connections_ := rfl
@[simp] lemma touch_created : (s.touch c conn p).created = s.created := rfl
@[simp] lemma touch_handles : (s.touch c conn p).handles = s.handles := rfl
@[simp] lemma touch_size : (s.touch c conn p).size_ = s.size_ := rfl

/-- Of two values that a connection is given the second counts. -/
lemma touch_touch {conn' : TcpConnection} {p' : EPollPoller ConnId}
    (h : conn.loop_ = (s.conn c).loop_) :
    (s.touch c conn p).touch c conn' p' = s.touch c conn' p' := by
  unfold touch
  simp only [Function.update_self, h, Function.update_idem]

@[simp] lemma conn_setConn_self : (s.setConn c conn).conn c = conn := Function.update_self ..
@[simp] lemma setConn_poller : (s.setConn c conn).poller = s.poller := rfl

/-- To set a connection is to touch it and leave the poller. -/
lemma setConn_eq_touch : s.setConn c conn = s.touch c conn (s.poller (s.conn c).loop_) := by
  unfold setConn touch
  rw [Function.update_eq_self]

end

/-- One event of the connection, with what it asks of the poller. -/
def Effect (s : TcpServer) (c : ConnId) (e : ConnEvent) (s' : TcpServer) : Prop :=
  ∃ conn p, ConnStep (s.conn c) e conn ∧
    e.Polled (s.poller (s.conn c).loop_) c (s.conn c).connChannel_ conn.connChannel_ p ∧
    s' = s.touch c conn p

section
variable {s s' : TcpServer} {i c : ℕ}

/-- An event that asks nothing of the poller. -/
lemma effect_setConn {e : ConnEvent} {conn : TcpConnection} (h : ConnStep (s.conn c) e conn)
    (hpolled : e.Polled (s.poller (s.conn c).loop_) c (s.conn c).connChannel_ conn.connChannel_
      (s.poller (s.conn c).loop_)) : s.Effect c e (s.setConn c conn) :=
  ⟨conn, _, h, hpolled, setConn_eq_touch ..⟩

/-- A call of the poller behind a change of the connection. -/
lemma updateChannel_ok {ch : Channel} (h : s.updateChannel c ch = .ok s') :
    ∃ p, (s.poller (s.conn c).loop_).updateChannel c ch = .ok p ∧
      s' = s.touch c { s.conn c with connChannel_ := ch } p := by
  obtain ⟨p, hp, h⟩ := except_bind_eq_ok.mp h
  exact ⟨p, hp, (Except.ok.inj h).symm⟩

/-! ## One lemma for each member -/

/-- What a `sendInLoop` that returns has done: nothing, or accepted the message. -/
lemma sendInLoop_ok {t : Thread} {msg : Bytes} (h : s.sendInLoop i c t msg = .ok s') :
    s' = s ∨ s.Effect c (.accept t msg) s' := by
  unfold sendInLoop at h
  obtain ⟨-, -, h⟩ := except_bind_eq_ok.mp h
  simp only at h
  split at h
  · rename_i hstate
    obtain ⟨output, happend, h⟩ := except_bind_eq_ok.mp h
    have hstep := ConnStep.accept t hstate happend
    right
    -- with write interest already on, the poller is not called
    by_cases hwriting : (s.conn c).connChannel_.isWriting = true
    · simp only [hwriting, Bool.not_true, Bool.false_eq_true, if_false] at h
      rw [if_pos hwriting] at hstep
      rw [← Except.ok.inj h]
      exact effect_setConn hstep (Or.inr ⟨rfl, rfl⟩)
    · rw [if_neg hwriting] at hstep
      rw [Bool.not_eq_true] at hwriting
      simp only [hwriting, Bool.not_false, if_true] at h
      obtain ⟨p, hp, hs'⟩ := updateChannel_ok h
      refine ⟨_, p, hstep, Or.inl (by simpa using hp), ?_⟩
      rw [hs']
      simp [touch, setConn]
  · exact Or.inl (Except.ok.inj h).symm

/-- What a `shutdownInLoop` that returns has done: nothing but in `kConnected`. -/
lemma shutdownInLoop_ok (h : s.shutdownInLoop i c = .ok s') :
    (s' = s ∧ (s.conn c).state_ ≠ .kConnected) ∨ s.Effect c .shutdown s' := by
  unfold shutdownInLoop at h
  obtain ⟨-, -, h⟩ := except_bind_eq_ok.mp h
  simp only at h
  split at h
  · rename_i hstate
    right
    cases hwriting : (s.conn c).connChannel_.isWriting with
    | false =>
      simp only [hwriting, Bool.not_false, if_true] at h
      rw [← Except.ok.inj h]
      exact effect_setConn (.shutdownNow hstate hwriting) ⟨rfl, rfl⟩
    | true =>
      simp only [hwriting, Bool.not_true, Bool.false_eq_true, if_false] at h
      rw [← Except.ok.inj h]
      exact effect_setConn (.shutdownLater hstate hwriting) ⟨rfl, rfl⟩
  · rename_i hstate
    exact Or.inl ⟨(Except.ok.inj h).symm, hstate⟩

/-- What a `handleWrite` that returns has done: nothing, or one write, behind which the callback may
be queued. -/
lemma handleWrite_ok {written : Option ℕ} (h : s.handleWrite i c written = .ok s') :
    s' = s ∨ ∃ n s₁, s.Effect c (.write n) s₁ ∧
      (s' = s₁ ∨ s' = s₁.queueInLoop (s.conn c).loop_ (.writeCompleteCallback c)) := by
  unfold handleWrite at h
  obtain ⟨-, -, h⟩ := except_bind_eq_ok.mp h
  simp only at h
  split at h
  · rename_i hwriting
    split at h
    · exact Or.inl (Except.ok.inj h).symm
    · rename_i n _
      obtain ⟨output, hretrieve, h⟩ := except_bind_eq_ok.mp h
      right
      -- was that the last byte?
      split at h
      · rename_i hdone
        obtain ⟨s₁, hwrite, h⟩ := except_bind_eq_ok.mp h
        obtain ⟨p, hp, hs₁⟩ := updateChannel_ok hwrite
        have heffect : s.Effect c (.write n) s₁ := by
          refine ⟨_, p, .writeAll hwriting hretrieve hdone, Or.inl (by simpa using hp), ?_⟩
          rw [hs₁]
          simp [touch, setConn]
        refine ⟨n, s₁, heffect, ?_⟩
        -- in `kDisconnecting`, `shutdownInLoop` finds nothing to do
        have hdisconnecting : ∀ s₂ : TcpServer, (s₂.conn c).state_ = .kDisconnecting →
            s₂.shutdownInLoop i c = .ok s' → s' = s₂ := by
          intro s₂ hstate h
          rcases shutdownInLoop_ok h with ⟨h, -⟩ | ⟨conn, p, hstep, -, -⟩
          · exact h
          · cases hstep <;> simp_all
        split at h <;> split at h
        · exact Or.inr (hdisconnecting _ ‹_› h)
        · exact Or.inr (Except.ok.inj h).symm
        · exact Or.inl (hdisconnecting _ ‹_› h)
        · exact Or.inl (Except.ok.inj h).symm
      · rename_i hleft
        refine ⟨n, s', ?_, Or.inl rfl⟩
        rw [← Except.ok.inj h]
        exact effect_setConn (.writePart hwriting hretrieve hleft) (Or.inr ⟨rfl, rfl⟩)
  · exact Or.inl (Except.ok.inj h).symm

/-- The state in which a member leaves loop thread `i` inside the connection callback on the way
down, with the rest of the member still to do. -/
def callsDown (s s' : TcpServer) (i : ℕ) (c : ConnId) (rest : Work) : Prop :=
  ∃ s₁, s.Effect c (.close i) s₁ ∧ s' = (s₁.pushWork i rest).enterUser i (some c)

/-- `kDisconnected`, no interest, and the connection callback. -/
lemma close_ok {rest : Work} (hstate : (s.conn c).state_ = .kConnected ∨
    (s.conn c).state_ = .kDisconnecting) (h : (do
      let s ← (s.setState c .kDisconnected).disableAll c
      return (s.pushWork i rest).callDown i c) = .ok s') : s.callsDown s' i c rest := by
  obtain ⟨s₁, hdisable, h⟩ := except_bind_eq_ok.mp h
  obtain ⟨p, hp, hs₁⟩ := updateChannel_ok hdisable
  refine ⟨_, ⟨_, p, .close i hstate, by simpa [setState, ConnEvent.Polled] using hp, rfl⟩, ?_⟩
  rw [← Except.ok.inj h, hs₁]
  simp [callDown, setState, setConn, touch, pushWork, setThread, enterUser]

/-- A `handleClose` that returns has closed the connection and left `closeCallback_` to do. -/
lemma handleClose_ok (h : s.handleClose i c = .ok s') : s.callsDown s' i c (.closeCallback c) := by
  unfold handleClose at h
  obtain ⟨-, -, h⟩ := except_bind_eq_ok.mp h
  obtain ⟨_, hstate, h⟩ := except_bind_eq_ok.mp h
  exact close_ok (assertThat_eq_ok.mp hstate) h

/-- What a `closeInLoop` that returns has done: nothing, or what `handleClose` does. -/
lemma closeInLoop_ok (h : s.closeInLoop i c = .ok s') :
    s' = s ∨ s.callsDown s' i c (.closeCallback c) := by
  unfold closeInLoop at h
  obtain ⟨-, -, h⟩ := except_bind_eq_ok.mp h
  split at h
  · exact Or.inr (handleClose_ok h)
  · exact Or.inl (Except.ok.inj h).symm

/-- What a `handleRead` that returns has done: nothing, or closed the connection, or read bytes and
called `msgCallback_`. -/
lemma handleRead_ok {data : Option Bytes} (h : s.handleRead i c data = .ok s') :
    s' = s ∨ s.callsDown s' i c (.closeCallback c) ∨
      ∃ bytes s₁, data = some bytes ∧ s.Effect c (.read bytes) s₁ ∧
        s' = s₁.enterUser i (some c) := by
  unfold handleRead at h
  split at h
  · exact Or.inl (Except.ok.inj h).symm
  · exact Or.inr (Or.inl (handleClose_ok h))
  · obtain ⟨input, hread, h⟩ := except_bind_eq_ok.mp h
    exact Or.inr (Or.inr ⟨_, _, rfl, effect_setConn (.read hread) ⟨rfl, rfl⟩,
      (Except.ok.inj h).symm⟩)

/-- A `connectEstablished` that returns has registered the channel and called the connection
callback. -/
lemma connectEstablished_ok (h : s.connectEstablished i c = .ok s') :
    ∃ s₁, s.Effect c (.establish i) s₁ ∧ s' = s₁.enterUser i (some c) := by
  unfold connectEstablished at h
  obtain ⟨-, -, h⟩ := except_bind_eq_ok.mp h
  obtain ⟨_, hstate, h⟩ := except_bind_eq_ok.mp h
  obtain ⟨s₁, hadd, h⟩ := except_bind_eq_ok.mp h
  obtain ⟨s₂, hreading, h⟩ := except_bind_eq_ok.mp h
  -- the poller is called twice: with no interest, then with the interest in reading
  obtain ⟨p₁, hp₁, hs₁⟩ := except_bind_eq_ok.mp hadd
  obtain ⟨p, hp, hs₂⟩ := updateChannel_ok hreading
  rw [← Except.ok.inj hs₁] at hp hs₂
  simp only [setState, conn_setConn_self, setConn_poller, Function.update_self] at hp₁ hp
  refine ⟨_, ⟨_, p, .establish i (assertThat_eq_ok.mp hstate), ⟨p₁, hp₁, hp⟩, rfl⟩, ?_⟩
  rw [← Except.ok.inj h, hs₂]
  simp [callUp, setState, setConn, touch, enterUser]

/-- The poller of the connection's loop has given up its channel. -/
def channelRemoved (s s' : TcpServer) (c : ConnId) : Prop :=
  ∃ p, (s.poller (s.conn c).loop_).removeChannel c (s.conn c).connChannel_ = .ok p ∧
    s' = s.touch c (s.conn c) p

/-- A `removeChannel` that returns has taken the channel out of the poller and left the connection.
-/
lemma removeChannel_ok (h : s.removeChannel c = .ok s') : s.channelRemoved s' c := by
  obtain ⟨p, hp, h⟩ := except_bind_eq_ok.mp h
  refine ⟨p, hp, ?_⟩
  rw [← Except.ok.inj h, touch, Function.update_eq_self]

/-- What a `connectDestroyed` that returns has done: in `kConnected` closed the connection, with its
channel still to be removed; else removed the channel. -/
lemma connectDestroyed_ok (h : s.connectDestroyed i c = .ok s') :
    s.callsDown s' i c (.removeChannel c) ∨ s.channelRemoved s' c := by
  unfold connectDestroyed at h
  obtain ⟨-, -, h⟩ := except_bind_eq_ok.mp h
  split at h
  · rename_i hstate
    exact Or.inl (close_ok (Or.inl hstate) h)
  · exact Or.inr (removeChannel_ok h)

end

end TcpServer
end Miniduo
