import Miniduo.NameTheorems
import Miniduo.OwnershipTheorems
import Miniduo.PollerTheorems

/-!
# The stages of a connection

A connection goes through the stages of `Stage`, one after the other. What takes it to the next one
is a single task or handler, which waits in one place: `Lifecycle` says so for all connections at
once, together with what each stage means for the connection, for `connections_` and for the poller
of its loop. `sound_of_run` finds the stages in every state that the server can reach.
-/

namespace Miniduo

/-! ## Stages -/

/-- Where a connection is on its way from `newConnection` to `connectDestroyed`. -/
inductive Stage
  /-- `connectEstablished` waits in the loop of the connection. -/
  | connecting
  /-- The channel has an interest; `handleRead` may wait. -/
  | up (reading : Bool)
  /-- `handleClose` has called the connection callback. -/
  | closing
  /-- `removeConnectionInLoop` waits in the acceptor's loop. -/
  | removing
  /-- `connectDestroyed` waits in the loop of the connection. -/
  | removed
  | gone
deriving Repr, DecidableEq

namespace Stage

/-- What takes the connection out of its stage. -/
def work (c : ConnId) : Stage → Option Work
  | .connecting => some (.task (.connectEstablished c))
  | .up true => some (.handleRead c)
  | .closing => some (.closeCallback c)
  | .removing => some (.task (.removeConnectionInLoop c))
  | .removed => some (.task (.connectDestroyed c))
  | .up false | .gone => none

/-- The loop in which that waits. -/
def place (loop_ : ℕ) : Stage → ℕ
  | .removing => 0
  | _ => loop_

def states : Stage → List StateE
  | .connecting => [.kConnecting]
  | .up _ => [.kConnected, .kDisconnecting]
  | _ => [.kDisconnected]

def ups (loop_ : ℕ) : Stage → List ℕ
  | .connecting => []
  | _ => [loop_]

def downs (loop_ : ℕ) : Stage → List ℕ
  | .connecting | .up _ => []
  | _ => [loop_]

def removals : Stage → ℕ
  | .removed | .gone => 1
  | _ => 0

def masks : Stage → List (BitVec 32)
  | .up _ => [Channel.kReadEvent, Channel.kReadEvent ||| Channel.kWriteEvent]
  | _ => [Channel.kNoneEvent]

/-- The entry of the connection's descriptor in the poller of its loop. -/
def entry (c : ConnId) (events : BitVec 32) :
    Stage → Option (ConnId × ChannelState) × Option (ConnId × BitVec 32)
  | .connecting | .gone => (none, none)
  | .up _ => (some (c, .ADDED), some (c, events))
  | _ => (some (c, .DELETED), none)

/-- What the stage means for the connection itself. -/
structure Fits (st : Stage) (conn : TcpConnection) : Prop where
  state : conn.state_ ∈ st.states
  up : conn.log.up = st.ups conn.loop_
  down : conn.log.down = st.downs conn.loop_
  removals : conn.log.removals = st.removals
  mask : conn.connChannel_.events_ ∈ st.masks

/-- Two stages that differ in what waits only. -/
structure Alike (st st' : Stage) : Prop where
  states : st'.states = st.states
  ups : ∀ loop_, st'.ups loop_ = st.ups loop_
  downs : ∀ loop_, st'.downs loop_ = st.downs loop_
  removals : st'.removals = st.removals
  masks : st'.masks = st.masks
  entry : ∀ c events, st'.entry c events = st.entry c events
  gone : st' = .gone ↔ st = .gone

lemma Alike.refl (st : Stage) : st.Alike st :=
  ⟨rfl, fun _ => rfl, fun _ => rfl, rfl, rfl, fun _ _ => rfl, Iff.rfl⟩

/-- Whether a read handler waits does not show in the connection. -/
lemma alike_up (reading reading' : Bool) : (up reading).Alike (up reading') :=
  ⟨rfl, fun _ => rfl, fun _ => rfl, rfl, rfl, fun _ _ => rfl, by simp⟩

/-- Whether the removal has been asked for does not show in the connection. -/
lemma alike_closing : closing.Alike removing :=
  ⟨rfl, fun _ => rfl, fun _ => rfl, rfl, rfl, fun _ _ => rfl, by simp⟩

end Stage

/-- The stage in which the work is done. -/
def Work.stage : Work → Option Stage
  | .task (.connectEstablished _) => some .connecting
  | .handleRead _ => some (.up true)
  | .closeCallback _ => some .closing
  | .task (.removeConnectionInLoop _) => some .removing
  | .task (.connectDestroyed _) => some .removed
  | _ => none

/-- The connection that the work takes to another stage. -/
def Work.control : Work → Option ConnId
  | .task (.connectEstablished c) | .task (.removeConnectionInLoop c)
  | .task (.connectDestroyed c) | .handleRead c | .closeCallback c | .removeChannel c => some c
  | _ => none

namespace TcpServer

/-! ## The invariant -/

/-- The stages as they show in the connections, in `connections_` and in the pollers. -/
structure Staged (s : TcpServer) (stage : ConnId → Stage) : Prop where
  fits : ∀ c < s.created, (stage c).Fits (s.conn c)
  mapped : ∀ c < s.created, (stage c).removals = 0 → s.connections_ (s.conn c).name_ = some c
  entry : ∀ c < s.created, stage c ≠ .gone →
    (s.poller (s.conn c).loop_).entry (s.conn c).connChannel_.fd_ =
      (stage c).entry c (s.conn c).connChannel_.events_
  table : ∀ i fd, (s.poller i).entry fd ≠ (none, none) →
    ∃ c < s.created, stage c ≠ .gone ∧ (s.conn c).loop_ = i ∧ (s.conn c).connChannel_.fd_ = fd
  fds : ∀ c < s.created, ∀ c' < s.created, stage c ≠ .gone → stage c' ≠ .gone →
    (s.conn c).connChannel_.fd_ = (s.conn c').connChannel_.fd_ → c = c'

/-- The work of a loop that takes the connection to another stage. -/
def controls (s : TcpServer) (c : ConnId) (i : ℕ) : List Work :=
  (s.works i).filter fun w => w.control = some c

/-- Only the work of the stage waits, and in its place. -/
def Controlled (s : TcpServer) (c : ConnId) (st : Stage) : Prop :=
  ∀ i, s.controls c i = if i = st.place (s.conn c).loop_ then (st.work c).toList else []

/-- Nothing waits. -/
def Idle (s : TcpServer) (c : ConnId) : Prop := ∀ i, s.controls c i = []

/-- The stages, and for each connection the work that takes it to the next one. -/
structure Lifecycle (s : TcpServer) (stage : ConnId → Stage) : Prop extends Staged s stage where
  control : ∀ c < s.created, s.Controlled c (stage c)

/-- The stages while the work of one connection has been taken and not been replaced. -/
structure Vacant (s : TcpServer) (stage : ConnId → Stage) (c : ConnId) : Prop
    extends Staged s stage where
  exists_ : c < s.created
  others : ∀ c' < s.created, c' ≠ c → s.Controlled c' (stage c')
  idle : s.Idle c

end TcpServer

/-! ## Events of a connection in a stage -/

namespace Stage

variable {conn conn' : TcpConnection} {st : Stage} {c : ConnId} {e : ConnEvent}

/-- The work of a stage tells the stage. -/
lemma stage_work {w : Work} (h : st.work c = some w) : w.stage = some st := by
  cases st with
  | up reading =>
    cases reading <;> cases h
    rfl
  | _ => cases h <;> rfl

/-- A connection that can be written to or closed is up. -/
lemma Fits.eq_up (h : st.Fits conn)
    (hstate : conn.state_ = .kConnected ∨ conn.state_ = .kDisconnecting) :
    ∃ reading, st = .up reading := by
  have hmem := h.state
  cases st with
  | up reading => exact ⟨reading, rfl⟩
  | _ => rcases hstate with hstate | hstate <;> simp [hstate, states] at hmem

/-- A channel that has an interest in writing belongs to a connection that is up. -/
lemma Fits.eq_up_of_writing (h : st.Fits conn) (hwriting : conn.connChannel_.isWriting = true) :
    ∃ reading, st = .up reading := by
  cases st with
  | up reading => exact ⟨reading, rfl⟩
  | _ =>
    have hmask : conn.connChannel_.events_ = Channel.kNoneEvent := List.mem_singleton.mp h.mask
    simp [Channel.isWriting, hmask, Channel.kNoneEvent] at hwriting

/-- The interest in writing comes and goes within the stage. -/
lemma masks_enableWriting {ch : Channel} {reading : Bool} (enable : Bool)
    (h : ch.events_ ∈ (up reading).masks) :
    (ch.enableWriting enable).events_ ∈ (up reading).masks := by
  have hmask : ch.events_ = Channel.kReadEvent ∨
      ch.events_ = Channel.kReadEvent ||| Channel.kWriteEvent := by
    simpa [masks] using h
  rcases hmask with hmask | hmask <;> cases enable <;>
    simp only [Channel.enableWriting, hmask, masks, if_true, Bool.false_eq_true, if_false] <;>
    decide

/-- A connection that is up has some interest. -/
lemma isNoneEvent_of_up {ch : Channel} {reading : Bool} (h : ch.events_ ∈ (up reading).masks) :
    ch.isNoneEvent = false := by
  have hmask : ch.events_ = Channel.kReadEvent ∨
      ch.events_ = Channel.kReadEvent ||| Channel.kWriteEvent := by
    simpa [masks] using h
  rcases hmask with hmask | hmask <;> simp only [Channel.isNoneEvent, hmask] <;> decide

/-- The events that leave a connection in its stage. -/
def Stays (e : ConnEvent) : Prop := (∀ i, e ≠ .establish i) ∧ (∀ i, e ≠ .close i) ∧ e ≠ .removal

/-- Events that leave a connection in its stage keep what the stage means. -/
lemma Fits.step (h : st.Fits conn) (hstep : ConnStep conn e conn') (he : Stays e) :
    st.Fits conn' := by
  cases hstep with
  | send t msg => exact ⟨h.state, h.up, h.down, h.removals, h.mask⟩
  | accept t hstate happend =>
    obtain ⟨reading, rfl⟩ := h.eq_up (Or.inl hstate)
    refine ⟨h.state, h.up, h.down, h.removals, ?_⟩
    show (if conn.connChannel_.isWriting then conn.connChannel_ else
      conn.connChannel_.enableWriting true).events_ ∈ _
    split
    · exact h.mask
    · exact masks_enableWriting true h.mask
  | shutdownNow hstate hidle =>
    obtain ⟨reading, rfl⟩ := h.eq_up (Or.inl hstate)
    exact ⟨by simp [states], h.up, h.down, h.removals, h.mask⟩
  | shutdownLater hstate hwriting =>
    obtain ⟨reading, rfl⟩ := h.eq_up (Or.inl hstate)
    exact ⟨by simp [states], h.up, h.down, h.removals, h.mask⟩
  | writePart hwriting hretrieve hleft => exact ⟨h.state, h.up, h.down, h.removals, h.mask⟩
  | writeAll hwriting hretrieve hdone =>
    obtain ⟨reading, rfl⟩ := h.eq_up_of_writing hwriting
    exact ⟨h.state, h.up, h.down, h.removals, masks_enableWriting false h.mask⟩
  | establish i hstate => exact absurd rfl (he.1 i)
  | close i hstate => exact absurd rfl (he.2.1 i)
  | read hread => exact ⟨h.state, h.up, h.down, h.removals, h.mask⟩
  | retrieve hretrieve => exact ⟨h.state, h.up, h.down, h.removals, h.mask⟩
  | removal => exact absurd rfl he.2.2

/-- `connectEstablished` brings a connection up. -/
lemma Fits.establish (h : connecting.Fits conn) (hstep : ConnStep conn (.establish conn.loop_) conn') :
    (Stage.up false).Fits conn' := by
  cases hstep with
  | establish i hstate =>
    refine ⟨by simp [states], ?_, h.down, h.removals, ?_⟩
    · show conn.log.up ++ [conn.loop_] = [conn.loop_]
      rw [h.up]
      rfl
    · have hmask : conn.connChannel_.events_ = Channel.kNoneEvent := List.mem_singleton.mp h.mask
      show conn.connChannel_.events_ ||| Channel.kReadEvent ∈ _
      rw [hmask]
      decide

/-- `handleClose` takes a connection that is up to the next stage. -/
lemma Fits.close {reading : Bool} (h : (Stage.up reading).Fits conn)
    (hstep : ConnStep conn (.close conn.loop_) conn') : closing.Fits conn' := by
  cases hstep with
  | close i hstate =>
    refine ⟨List.mem_singleton_self _, h.up, ?_, h.removals, List.mem_singleton_self _⟩
    show conn.log.down ++ [conn.loop_] = [conn.loop_]
    rw [h.down]
    rfl

/-- A closed connection is removed from `closing`, in the acceptor's loop, or from `removing`. -/
lemma Fits.removal (h : st.Fits conn) (hst : st = .closing ∨ st = .removing)
    (hstep : ConnStep conn .removal conn') : removed.Fits conn' := by
  cases hstep with
  | removal =>
    have hremovals := h.removals
    rcases hst with rfl | rfl
    · refine ⟨h.state, h.up, h.down, ?_, h.mask⟩
      show conn.log.removals + 1 = 1
      rw [hremovals]
      rfl
    · refine ⟨h.state, h.up, h.down, ?_, h.mask⟩
      show conn.log.removals + 1 = 1
      rw [hremovals]
      rfl

/-! ## Calls of the poller in a stage -/

variable {p p' : EPollPoller ConnId}

/-- An event that leaves the connection in its stage leaves the entry at what the stage says. -/
lemma Fits.polled (h : st.Fits conn)
    (hentry : p.entry conn.connChannel_.fd_ = st.entry c conn.connChannel_.events_)
    (hstep : ConnStep conn e conn') (he : Stays e)
    (hpolled : e.Polled p c conn.connChannel_ conn'.connChannel_ p') :
    ∃ ctls, p' = p.setEntry conn.connChannel_.fd_ (st.entry c conn'.connChannel_.events_) ctls := by
  have hsame : conn'.connChannel_ = conn.connChannel_ ∧ p' = p → ∃ ctls,
      p' = p.setEntry conn.connChannel_.fd_ (st.entry c conn'.connChannel_.events_) ctls := by
    rintro ⟨hch, rfl⟩
    rw [hch, ← hentry]
    exact ⟨[], (EPollPoller.setEntry_entry _ _).symm⟩
  -- an update of a channel that is up is an `EPOLL_CTL_MOD`
  have hmod : (∃ reading, st = .up reading) →
      p.updateChannel c conn'.connChannel_ = .ok p' → ∃ ctls,
      p' = p.setEntry conn.connChannel_.fd_ (st.entry c conn'.connChannel_.events_) ctls := by
    rintro ⟨reading, rfl⟩ hupdate
    have hfd := hstep.fd_eq
    rw [← hfd] at hentry ⊢
    have heq := EPollPoller.updateChannel_mod hentry (isNoneEvent_of_up (h.step hstep he).mask)
    rw [heq, Except.ok.injEq] at hupdate
    exact ⟨_, hupdate.symm⟩
  cases hstep with
  | accept t hstate happend => exact hpolled.elim (hmod (h.eq_up (Or.inl hstate))) hsame
  | writePart hwriting hretrieve hleft =>
    exact hpolled.elim (hmod (h.eq_up_of_writing hwriting)) hsame
  | writeAll hwriting hretrieve hdone =>
    exact hpolled.elim (hmod (h.eq_up_of_writing hwriting)) hsame
  | establish i hstate => exact absurd rfl (he.1 i)
  | close i hstate => exact absurd rfl (he.2.1 i)
  | _ => exact hsame hpolled

/-- What `connectEstablished` makes of the entry of the descriptor. -/
lemma Fits.polled_establish {i : ℕ} (h : connecting.Fits conn)
    (hentry : p.entry conn.connChannel_.fd_ = (none, none))
    (hstep : ConnStep conn (.establish i) conn')
    (hpolled : (ConnEvent.establish i).Polled p c conn.connChannel_ conn'.connChannel_ p') :
    ∃ ctls, p' = p.setEntry conn.connChannel_.fd_
      ((Stage.up false).entry c conn'.connChannel_.events_) ctls := by
  obtain ⟨p₁, hadd, hupdate⟩ := hpolled
  have hfd := hstep.fd_eq
  have hmask : conn.connChannel_.events_ = Channel.kNoneEvent := List.mem_singleton.mp h.mask
  have hnone : conn.connChannel_.isNoneEvent = true := by simp [Channel.isNoneEvent, hmask]
  rw [EPollPoller.addChannel_none hentry hnone, Except.ok.injEq] at hadd
  have hsome : conn'.connChannel_.isNoneEvent = false := by
    cases hstep with
    | establish i hstate =>
      show (conn.connChannel_.events_ ||| Channel.kReadEvent == Channel.kNoneEvent) = false
      rw [hmask]
      decide
  have hentry₁ : p₁.entry conn'.connChannel_.fd_ = (some (c, .NEW), none) := by
    rw [hfd, ← hadd, EPollPoller.entry_setEntry_self]
  have hadded := EPollPoller.updateChannel_add (by decide) hentry₁ hsome
  rw [hadded, Except.ok.injEq, ← hadd, hfd, EPollPoller.setEntry_setEntry] at hupdate
  exact ⟨_, hupdate.symm⟩

/-- What a close makes of the entry of the descriptor. -/
lemma Fits.polled_close {i : ℕ} {reading : Bool}
    (hentry : p.entry conn.connChannel_.fd_ =
      (Stage.up reading).entry c conn.connChannel_.events_)
    (hstep : ConnStep conn (.close i) conn')
    (hpolled : (ConnEvent.close i).Polled p c conn.connChannel_ conn'.connChannel_ p') :
    ∃ ctls, p' = p.setEntry conn.connChannel_.fd_
      (closing.entry c conn'.connChannel_.events_) ctls := by
  have hfd := hstep.fd_eq
  have hnone : conn'.connChannel_.isNoneEvent = true := by
    cases hstep with
    | close i hstate => rfl
  rw [← hfd] at hentry ⊢
  have heq := EPollPoller.updateChannel_del hentry hnone
  rw [ConnEvent.Polled, heq, Except.ok.injEq] at hpolled
  exact ⟨_, hpolled.symm⟩

end Stage

namespace TcpServer

section
variable {s s' : TcpServer} {stage : ConnId → Stage} {st : Stage} {c c' : ConnId} {i : ℕ}
  {w : Work} {t : Task} {e : ConnEvent}

/-! ## What waits for a connection -/

/-- What waits for a connection depends on the lists of the loops. -/
lemma controls_congr (hworks : s'.works = s.works) : s'.controls c i = s.controls c i := by
  rw [controls, controls, hworks]

/-- A task that is queued waits for its connection behind the others. -/
lemma controls_queueInLoop {j : ℕ} : (s.queueInLoop j t).controls c i =
    s.controls c i ++ if i = j ∧ (Work.task t).control = some c then [.task t] else [] := by
  by_cases hi : i = j
  · subst hi
    by_cases ht : (Work.task t).control = some c <;> simp [controls, ht]
  · simp [controls, hi]

/-- What a handler leaves waits for its connection before the others. -/
lemma controls_pushWork {j : ℕ} : (s.pushWork j w).controls c i =
    (if i = j ∧ w.control = some c then [w] else []) ++ s.controls c i := by
  by_cases hi : i = j
  · subst hi
    by_cases hw : w.control = some c <;> simp [controls, hw]
  · simp [controls, hi]

lemma controls_enterUser {j : ℕ} {arg : Option ConnId} :
    (s.enterUser j arg).controls c i = s.controls c i := by
  rw [controls, controls, works_enterUser]

/-- What is taken was the first to wait. -/
lemma controls_pop {j : ℕ} (hnext : s.Next j w) :
    s.controls c i = (if i = j ∧ w.control = some c then [w] else []) ++
      (s.pop j).controls c i := by
  by_cases hi : i = j
  · subst hi
    rw [controls, works_pop_self hnext]
    by_cases hw : w.control = some c <;> simp [controls, hw]
  · simp [controls, hi]

/-- Only the lists of the loops and the loop of the connection matter. -/
lemma Controlled.congr (h : s.Controlled c st) (hworks : s'.works = s.works)
    (hloop : (s'.conn c).loop_ = (s.conn c).loop_) : s'.Controlled c st := by
  intro i
  rw [controls_congr hworks, hloop]
  exact h i

/-- A callback leaves the work of every stage in its place. -/
lemma Controlled.enterUser {arg : Option ConnId} (h : s.Controlled c st) :
    (s.enterUser i arg).Controlled c st := by
  intro j
  rw [controls_enterUser]
  exact h j

/-- Work of another connection, or of none. -/
lemma Controlled.queueInLoop (h : s.Controlled c st) (ht : (Work.task t).control ≠ some c) :
    (s.queueInLoop i t).Controlled c st := by
  intro j
  rw [controls_queueInLoop, if_neg fun hboth => ht hboth.2, List.append_nil]
  exact h j

/-- Another connection's work does not come in the way. -/
lemma Controlled.pushWork (h : s.Controlled c st) (hw : w.control ≠ some c) :
    (s.pushWork i w).Controlled c st := by
  intro j
  rw [controls_pushWork, if_neg fun hboth => hw hboth.2, List.nil_append]
  exact h j

/-- The work of a stage stays when another connection's is taken. -/
lemma Controlled.pop (h : s.Controlled c st) (hnext : s.Next i w) (hw : w.control ≠ some c) :
    (s.pop i).Controlled c st := by
  intro j
  have heq := controls_pop (c := c) (i := j) hnext
  rw [if_neg fun hboth => hw hboth.2, List.nil_append] at heq
  rw [← heq]
  exact h j

/-- Taking the work of a connection: it was that of the stage, and nothing else waits. -/
lemma Controlled.take (h : s.Controlled c st) (hnext : s.Next i w) (hw : w.control = some c) :
    st.work c = some w ∧ i = st.place (s.conn c).loop_ ∧ (s.pop i).Idle c := by
  have hself := controls_pop (c := c) (i := i) hnext
  -- `w` heads the control work of loop `i`, which has at most one item and only at the place
  rw [if_pos ⟨rfl, hw⟩, h i, List.singleton_append] at hself
  by_cases hi : i = st.place (s.conn c).loop_
  · rw [if_pos hi] at hself
    cases hwork : st.work c with
    | none => simp [hwork] at hself
    | some w' =>
      rw [hwork, Option.toList_some, List.cons.injEq] at hself
      refine ⟨by rw [hself.1], hi, fun j => ?_⟩
      by_cases hj : j = i
      · rw [hj]
        exact hself.2.symm
      · have hother := controls_pop (c := c) (i := j) hnext
        rw [if_neg fun hboth => hj hboth.1, List.nil_append, h j,
          if_neg fun heq => hj (heq.trans hi.symm)] at hother
        exact hother.symm
  · rw [if_neg hi] at hself
    cases hself

/-- In a stage without work nothing waits. -/
lemma controlled_iff_idle (hwork : st.work c = none) : s.Controlled c st ↔ s.Idle c := by
  refine forall_congr' fun i => ?_
  rw [hwork, Option.toList_none, ite_self]

lemma Idle.congr (h : s.Idle c) (hworks : s'.works = s.works) : s'.Idle c := by
  intro i
  rw [controls_congr hworks]
  exact h i

/-- The work of the stage is queued in its place. -/
lemma Idle.queueInLoop (h : s.Idle c) (hwork : st.work c = some (.task t))
    (ht : (Work.task t).control = some c) :
    (s.queueInLoop (st.place (s.conn c).loop_) t).Controlled c st := by
  intro i
  rw [controls_queueInLoop, h i, List.nil_append, hwork, Option.toList_some, queueInLoop_conn]
  by_cases hi : i = st.place (s.conn c).loop_
  · rw [if_pos hi, if_pos ⟨hi, ht⟩]
  · rw [if_neg hi, if_neg fun hboth => hi hboth.1]

/-- Where nothing waits, the work of the stage can be put in its place. -/
lemma Idle.pushWork (h : s.Idle c) (hwork : st.work c = some w) (hw : w.control = some c) :
    (s.pushWork (st.place (s.conn c).loop_) w).Controlled c st := by
  intro i
  rw [controls_pushWork, h i, List.append_nil, hwork, Option.toList_some]
  show _ = if i = st.place (s.conn c).loop_ then [w] else []
  by_cases hi : i = st.place (s.conn c).loop_
  · rw [if_pos hi, if_pos ⟨hi, hw⟩]
  · rw [if_neg hi, if_neg fun hboth => hi hboth.1]

/-- What waits for a connection names one that exists. -/
lemma Placed.control_lt (h : s.Placed) (hw : w ∈ s.works i) (hcontrol : w.control = some c) :
    c < s.created := by
  have hat := h.work i w hw
  cases w with
  | task t =>
    cases t <;> simp only [Work.control, Option.some.injEq, reduceCtorEq] at hcontrol <;>
      exact hcontrol ▸ hat.1
  | acceptorRead => cases hcontrol
  | handleWrite c' => cases hcontrol
  | userHandler => cases hcontrol
  | handleRead c' | closeCallback c' | removeChannel c' =>
    rw [Work.control, Option.some.injEq] at hcontrol
    exact hcontrol ▸ hat.1

/-- For a connection that does not exist nothing waits. -/
lemma Placed.idle (h : s.Placed) (hc : ¬c < s.created) : s.Idle c := by
  intro i
  refine List.filter_eq_nil_iff.mpr fun w hw hcontrol => hc ?_
  exact h.control_lt hw (of_decide_eq_true hcontrol)

/-! ## What the operations do to the stages -/

/-- What leaves the channels, the pollers and `connections_` alone. -/
lemma Staged.congr (h : s.Staged stage) (hcreated : s'.created = s.created)
    (hconn : ∀ c, (s'.conn c).loop_ = (s.conn c).loop_ ∧ (s'.conn c).name_ = (s.conn c).name_ ∧
      (s'.conn c).connChannel_ = (s.conn c).connChannel_)
    (hfits : ∀ c < s.created, (stage c).Fits (s'.conn c))
    (hpoller : s'.poller = s.poller) (hmap : s'.connections_ = s.connections_) :
    s'.Staged stage := by
  constructor
  · rwa [hcreated]
  · intro c hc hremovals
    rw [hmap, (hconn c).2.1]
    exact h.mapped c (hcreated ▸ hc) hremovals
  · intro c hc hne
    rw [hpoller, (hconn c).1, (hconn c).2.2]
    exact h.entry c (hcreated ▸ hc) hne
  · intro i fd hne
    rw [hpoller] at hne
    obtain ⟨c, hc, hlive, hi, hfd⟩ := h.table i fd hne
    refine ⟨c, hcreated ▸ hc, hlive, (hconn c).1.trans hi, ?_⟩
    rw [(hconn c).2.2, hfd]
  · intro c hc c' hc' hne hne' heq
    rw [(hconn c).2.2, (hconn c').2.2] at heq
    exact h.fds c (hcreated ▸ hc) c' (hcreated ▸ hc') hne hne' heq

/-- Other work waits for the connections. -/
lemma Staged.restage {stage' : ConnId → Stage} (h : s.Staged stage)
    (halike : ∀ c < s.created, (stage c).Alike (stage' c)) : s.Staged stage' := by
  have hgone : ∀ c < s.created, stage' c ≠ .gone ↔ stage c ≠ .gone := fun c hc =>
    not_congr (halike c hc).gone
  constructor
  · intro c hc
    obtain ⟨hstate, hup, hdown, hremovals, hmask⟩ := h.fits c hc
    have hst := halike c hc
    exact ⟨hst.states ▸ hstate, (hst.ups _).symm ▸ hup, (hst.downs _).symm ▸ hdown,
      hst.removals ▸ hremovals, hst.masks ▸ hmask⟩
  · intro c hc hremovals
    rw [(halike c hc).removals] at hremovals
    exact h.mapped c hc hremovals
  · intro c hc hne
    rw [(halike c hc).entry c]
    exact h.entry c hc ((hgone c hc).mp hne)
  · intro i fd hne
    obtain ⟨c, hc, hlive, hat⟩ := h.table i fd hne
    exact ⟨c, hc, (hgone c hc).mpr hlive, hat⟩
  · intro c hc c' hc' hne hne'
    exact h.fds c hc c' hc' ((hgone c hc).mp hne) ((hgone c' hc').mp hne')

/-- A connection moves to a stage in which the entry of its descriptor is that of the stage. -/
lemma Staged.touch (h : s.Staged stage) (hc : c < s.created) (hlive : stage c ≠ .gone)
    {conn : TcpConnection} (hloop : conn.loop_ = (s.conn c).loop_)
    (hname : conn.name_ = (s.conn c).name_)
    (hfd : conn.connChannel_.fd_ = (s.conn c).connChannel_.fd_) (hfits : st.Fits conn)
    (hremovals : st.removals = 0 → (stage c).removals = 0) (ctls : List (EpollCtl ConnId)) :
    (s.touch c conn ((s.poller (s.conn c).loop_).setEntry (s.conn c).connChannel_.fd_
      (st.entry c conn.connChannel_.events_) ctls)).Staged (Function.update stage c st) := by
  set p := (s.poller (s.conn c).loop_).setEntry (s.conn c).connChannel_.fd_
    (st.entry c conn.connChannel_.events_) ctls with hp
  -- the loop and the descriptor of every connection, and the stages of the others
  have hsame : ∀ c', ((s.touch c conn p).conn c').loop_ = (s.conn c').loop_ ∧
      ((s.touch c conn p).conn c').name_ = (s.conn c').name_ ∧
      ((s.touch c conn p).conn c').connChannel_.fd_ = (s.conn c').connChannel_.fd_ := by
    intro c'
    by_cases hne : c' = c
    · rw [hne, touch_conn_self]
      exact ⟨hloop, hname, hfd⟩
    · rw [touch_conn_ne _ _ _ _ hne]
      exact ⟨rfl, rfl, rfl⟩
  have hwas : ∀ c', Function.update stage c st c' ≠ .gone → stage c' ≠ .gone := by
    intro c' hne
    by_cases heq : c' = c
    · rwa [heq]
    · rwa [Function.update_of_ne heq] at hne
  -- the other entries
  have hpoller : ∀ i fd, ¬(i = (s.conn c).loop_ ∧ fd = (s.conn c).connChannel_.fd_) →
      ((s.touch c conn p).poller i).entry fd = (s.poller i).entry fd := by
    intro i fd hother
    show (Function.update s.poller (s.conn c).loop_ p i).entry fd = _
    by_cases hi : i = (s.conn c).loop_
    · rw [hi, Function.update_self, hp, EPollPoller.entry_setEntry_ne _ _ _ fun heq => hother ⟨hi, heq⟩]
    · rw [Function.update_of_ne hi]
  have hown : ((s.touch c conn p).poller (s.conn c).loop_).entry (s.conn c).connChannel_.fd_ =
      st.entry c conn.connChannel_.events_ := by
    show (Function.update s.poller (s.conn c).loop_ p (s.conn c).loop_).entry _ = _
    rw [Function.update_self, hp, EPollPoller.entry_setEntry_self]
  constructor
  · intro c' hc'
    by_cases heq : c' = c
    · rw [heq, Function.update_self, touch_conn_self]
      exact hfits
    · rw [Function.update_of_ne heq, touch_conn_ne _ _ _ _ heq]
      exact h.fits c' hc'
  · intro c' hc' hzero
    rw [(hsame c').2.1, touch_connections]
    refine h.mapped c' hc' ?_
    by_cases heq : c' = c
    · rw [heq, Function.update_self] at hzero
      rw [heq]
      exact hremovals hzero
    · rwa [Function.update_of_ne heq] at hzero
  · intro c' hc' hne
    rw [(hsame c').1, (hsame c').2.2]
    by_cases heq : c' = c
    · rw [heq, hown, Function.update_self, touch_conn_self]
    · rw [hpoller _ _ fun hboth =>
        heq (h.fds c' hc' c hc (hwas c' hne) hlive hboth.2), Function.update_of_ne heq,
        touch_conn_ne _ _ _ _ heq]
      rw [Function.update_of_ne heq] at hne
      exact h.entry c' hc' hne
  · intro i fd hne
    by_cases hat : i = (s.conn c).loop_ ∧ fd = (s.conn c).connChannel_.fd_
    · obtain ⟨rfl, rfl⟩ := hat
      refine ⟨c, hc, ?_, (hsame c).1, (hsame c).2.2⟩
      rw [hown] at hne
      rw [Function.update_self]
      rintro rfl
      exact hne rfl
    · rw [hpoller i fd hat] at hne
      obtain ⟨c', hc', hlive', hi, hfd'⟩ := h.table i fd hne
      have heq : c' ≠ c := by
        rintro rfl
        exact hat ⟨hi.symm, hfd'.symm⟩
      refine ⟨c', hc', ?_, (hsame c').1.trans hi, (hsame c').2.2.trans hfd'⟩
      rwa [Function.update_of_ne heq]
  · intro c₁ hc₁ c₂ hc₂ hne₁ hne₂ heq
    rw [(hsame c₁).2.2, (hsame c₂).2.2] at heq
    exact h.fds c₁ hc₁ c₂ hc₂ (hwas c₁ hne₁) (hwas c₂ hne₂) heq

/-- An event that leaves the connection in its stage. -/
lemma Staged.effect (h : s.Staged stage) (hc : c < s.created) (he : Stage.Stays e)
    (heffect : s.Effect c e s') : s'.Staged stage := by
  obtain ⟨conn, p, hstep, hpolled, rfl⟩ := heffect
  have hfits := (h.fits c hc).step hstep he
  by_cases hgone : stage c = .gone
  · -- the descriptor may belong to another connection by now
    have hquiet : conn.connChannel_ = (s.conn c).connChannel_ ∧
        p = s.poller (s.conn c).loop_ := by
      have hup : ∀ {P : Prop}, (∃ reading, stage c = .up reading) → P := by
        rintro P ⟨reading, hup⟩
        rw [hgone] at hup
        cases hup
      cases hstep with
      | accept t hstate happend => exact hup ((h.fits c hc).eq_up (Or.inl hstate))
      | writePart hwriting hretrieve hleft => exact hup ((h.fits c hc).eq_up_of_writing hwriting)
      | writeAll hwriting hretrieve hdone => exact hup ((h.fits c hc).eq_up_of_writing hwriting)
      | establish i hstate => exact absurd rfl (he.1 i)
      | close i hstate => exact absurd rfl (he.2.1 i)
      | _ => exact hpolled
    obtain ⟨hch, rfl⟩ := hquiet
    rw [← setConn_eq_touch]
    refine h.congr rfl (fun c' => ?_) (fun c' hc' => ?_) rfl rfl
    · by_cases heq : c' = c
      · rw [heq, conn_setConn_self]
        exact ⟨hstep.loop_eq, hstep.name_eq, hch⟩
      · rw [setConn_eq_touch, touch_conn_ne _ _ _ _ heq]
        exact ⟨rfl, rfl, rfl⟩
    · by_cases heq : c' = c
      · rw [heq, conn_setConn_self]
        exact hfits
      · rw [setConn_eq_touch, touch_conn_ne _ _ _ _ heq]
        exact h.fits c' hc'
  · obtain ⟨ctls, hp⟩ := (h.fits c hc).polled (h.entry c hc hgone) hstep he hpolled
    have htouch := h.touch hc hgone hstep.loop_eq hstep.name_eq hstep.fd_eq hfits id ctls
    rwa [Function.update_eq_self, ← hp] at htouch

/-- The stages after a connection has been established. -/
lemma Staged.establish (h : s.Staged stage) (hc : c < s.created) (hst : stage c = .connecting)
    (heffect : s.Effect c (.establish (s.conn c).loop_) s') :
    s'.Staged (Function.update stage c (.up false)) := by
  obtain ⟨conn, p, hstep, hpolled, rfl⟩ := heffect
  have hfits := h.fits c hc
  have hlive : stage c ≠ .gone := by rw [hst]; decide
  have hentry := h.entry c hc hlive
  rw [hst] at hfits hentry
  obtain ⟨ctls, rfl⟩ := hfits.polled_establish hentry hstep hpolled
  exact h.touch hc hlive hstep.loop_eq hstep.name_eq hstep.fd_eq (hfits.establish hstep)
    (fun _ => by rw [hst]; rfl) ctls

/-- The stages after a connection has been closed. -/
lemma Staged.close {reading : Bool} (h : s.Staged stage) (hc : c < s.created)
    (hst : stage c = .up reading) (heffect : s.Effect c (.close (s.conn c).loop_) s') :
    s'.Staged (Function.update stage c .closing) := by
  obtain ⟨conn, p, hstep, hpolled, rfl⟩ := heffect
  have hfits := h.fits c hc
  have hlive : stage c ≠ .gone := by rw [hst]; simp
  have hentry := h.entry c hc hlive
  rw [hst] at hfits hentry
  obtain ⟨ctls, rfl⟩ := Stage.Fits.polled_close hentry hstep hpolled
  exact h.touch hc hlive hstep.loop_eq hstep.name_eq hstep.fd_eq (hfits.close hstep)
    (fun _ => by rw [hst]; rfl) ctls

/-- `removeConnectionInLoop`, up to the task that it queues. -/
lemma Staged.removal (h : s.Staged stage) (hc : c < s.created)
    (hst : stage c = .closing ∨ stage c = .removing) (heffect : s.Effect c .removal s') :
    (s'.unmap (s.conn c).name_).Staged (Function.update stage c .removed) := by
  obtain ⟨conn, p, hstep, ⟨hch, rfl⟩, rfl⟩ := heffect
  have hlive : stage c ≠ .gone := by rcases hst with hst | hst <;> rw [hst] <;> decide
  have hentry : (s.poller (s.conn c).loop_).entry (s.conn c).connChannel_.fd_ =
      Stage.removed.entry c conn.connChannel_.events_ := by
    have hentry := h.entry c hc hlive
    rcases hst with hst | hst <;> rw [hst] at hentry <;> exact hentry
  have hstaged := h.touch hc hlive hstep.loop_eq hstep.name_eq hstep.fd_eq
    ((h.fits c hc).removal hst hstep) (fun hzero => nomatch hzero) []
  rw [← hentry, EPollPoller.setEntry_entry] at hstaged
  refine ⟨hstaged.fits, fun c' hc' hzero => ?_, hstaged.entry, hstaged.table, hstaged.fds⟩
  have hne : c' ≠ c := by
    rintro rfl
    rw [Function.update_self] at hzero
    cases hzero
  -- a name stands for one connection only
  have hown : s.connections_ (s.conn c).name_ = some c :=
    h.mapped c hc (by rcases hst with hst | hst <;> rw [hst] <;> rfl)
  have hmap := hstaged.mapped c' hc' hzero
  rw [touch_conn_ne _ _ _ _ hne, touch_connections] at hmap
  have hconn : ((s.touch c conn (s.poller (s.conn c).loop_)).unmap (s.conn c).name_).conn c' =
      s.conn c' := touch_conn_ne s c conn (s.poller (s.conn c).loop_) hne
  have hname : (s.conn c').name_ ≠ (s.conn c).name_ := by
    intro heq
    rw [heq, hown, Option.some.injEq] at hmap
    exact hne hmap.symm
  show Function.update s.connections_ (s.conn c).name_ none _ = some c'
  rw [hconn, Function.update_of_ne hname]
  exact hmap

/-- The stages after the channel of a connection has been removed. -/
lemma Staged.gone (h : s.Staged stage) (hc : c < s.created) (hst : stage c = .removed)
    (hremoved : s.channelRemoved s' c) : s'.Staged (Function.update stage c .gone) := by
  obtain ⟨p, hp, rfl⟩ := hremoved
  have hfits := h.fits c hc
  have hlive : stage c ≠ .gone := by rw [hst]; decide
  have hentry := h.entry c hc hlive
  rw [hst] at hfits hentry
  have hmask : (s.conn c).connChannel_.events_ = Channel.kNoneEvent :=
    List.mem_singleton.mp hfits.mask
  have hnone : (s.conn c).connChannel_.isNoneEvent = true := by
    simp [Channel.isNoneEvent, hmask]
  rw [EPollPoller.removeChannel_deleted hentry hnone, Except.ok.injEq] at hp
  rw [← hp]
  exact h.touch hc hlive rfl rfl rfl
    (⟨hfits.state, hfits.up, hfits.down, hfits.removals, hfits.mask⟩ : Stage.gone.Fits _)
    (fun hzero => nomatch hzero) []

/-! ## Work that is taken and replaced -/

lemma Effect.works_eq (h : s.Effect c e s') : s'.works = s.works := by
  obtain ⟨conn, p, -, -, rfl⟩ := h
  exact works_touch c conn p

/-- Work that takes no connection to another stage can be taken. -/
lemma Lifecycle.pop (h : s.Lifecycle stage) (hnext : s.Next i w) (hw : w.control = none) :
    (s.pop i).Lifecycle stage where
  toStaged := h.congr rfl (fun _ => ⟨rfl, rfl, rfl⟩) h.fits rfl rfl
  control c hc := (h.control c hc).pop hnext (by rw [hw]; simp)

lemma Lifecycle.enterUser {arg : Option ConnId} (h : s.Lifecycle stage) :
    (s.enterUser i arg).Lifecycle stage where
  toStaged := h.congr rfl (fun _ => ⟨rfl, rfl, rfl⟩) h.fits rfl rfl
  control c hc := (h.control c hc).enterUser

/-- A task that takes no connection to another stage can be queued. -/
lemma Lifecycle.queueInLoop (h : s.Lifecycle stage) (ht : (Work.task t).control = none) :
    (s.queueInLoop i t).Lifecycle stage where
  toStaged := h.congr rfl (fun _ => ⟨rfl, rfl, rfl⟩) h.fits rfl rfl
  control c hc := (h.control c hc).queueInLoop (by rw [ht]; simp)

/-- An event that leaves its connection in its stage leaves the stages. -/
lemma Lifecycle.effect (h : s.Lifecycle stage) (hc : c < s.created) (he : Stage.Stays e)
    (heffect : s.Effect c e s') : s'.Lifecycle stage where
  toStaged := h.toStaged.effect hc he heffect
  control c' hc' := by
    rw [heffect.created_eq] at hc'
    exact (h.control c' hc').congr heffect.works_eq (heffect.extends.2 c' hc')

/-- What a loop thread takes off its list is the work of a stage. -/
lemma Lifecycle.take (h : s.Lifecycle stage) (hc : c < s.created) (hnext : s.Next i w)
    (hw : w.control = some c) :
    w.stage = some (stage c) ∧ i = (stage c).place (s.conn c).loop_ ∧ (s.pop i).Vacant stage c := by
  obtain ⟨hwork, hi, hidle⟩ := (h.control c hc).take hnext hw
  refine ⟨Stage.stage_work hwork, hi, ?_⟩
  refine ⟨h.congr rfl (fun _ => ⟨rfl, rfl, rfl⟩) h.fits rfl rfl, hc, fun c' hc' hne => ?_, hidle⟩
  refine (h.control c' hc').pop hnext fun hcontrol => hne ?_
  rw [hw] at hcontrol
  exact (Option.some.inj hcontrol).symm

/-- A stage in which nothing waits. -/
lemma Lifecycle.vacant (h : s.Lifecycle stage) (hc : c < s.created)
    (hwork : (stage c).work c = none) : s.Vacant stage c :=
  ⟨h.toStaged, hc, fun c' hc' _ => h.control c' hc', (controlled_iff_idle hwork).mp (h.control c hc)⟩

/-- The stages are complete when the work of the connection is in its place again. -/
lemma Vacant.lifecycle (h : s.Vacant stage c) (hcontrol : s.Controlled c (stage c)) :
    s.Lifecycle stage := by
  refine ⟨h.toStaged, fun c' hc' => ?_⟩
  by_cases heq : c' = c
  · rwa [heq]
  · exact h.others c' hc' heq

/-- In a stage without work they are complete at once. -/
lemma Vacant.done (h : s.Vacant stage c) (hwork : (stage c).work c = none) : s.Lifecycle stage :=
  h.lifecycle ((controlled_iff_idle hwork).mpr h.idle)

/-- The connection is in another stage, and the work of that is still to come. -/
lemma Vacant.move (h : s.Vacant stage c) (hstaged : s'.Staged (Function.update stage c st))
    (hcreated : s'.created = s.created) (hworks : s'.works = s.works)
    (hloop : ∀ c' < s.created, (s'.conn c').loop_ = (s.conn c').loop_) :
    s'.Vacant (Function.update stage c st) c := by
  refine ⟨hstaged, hcreated ▸ h.exists_, fun c' hc' hne => ?_, h.idle.congr hworks⟩
  rw [hcreated] at hc'
  rw [Function.update_of_ne hne]
  exact (h.others c' hc' hne).congr hworks (hloop c' hc')

/-- They are complete when the task of the stage is queued in its place. -/
lemma Vacant.queueInLoop (h : s.Vacant stage c) (hwork : (stage c).work c = some (.task t))
    (ht : (Work.task t).control = some c) :
    (s.queueInLoop ((stage c).place (s.conn c).loop_) t).Lifecycle stage := by
  have hvacant : (s.queueInLoop ((stage c).place (s.conn c).loop_) t).Staged stage :=
    h.congr rfl (fun _ => ⟨rfl, rfl, rfl⟩) h.fits rfl rfl
  refine ⟨hvacant, fun c' hc' => ?_⟩
  by_cases heq : c' = c
  · rw [heq]
    exact h.idle.queueInLoop hwork ht
  · refine (h.others c' hc' heq).queueInLoop fun hcontrol => heq ?_
    rw [ht] at hcontrol
    exact (Option.some.inj hcontrol).symm

/-- They are complete when the handler of the stage is next in its place. -/
lemma Vacant.pushWork (h : s.Vacant stage c) (hwork : (stage c).work c = some w)
    (hw : w.control = some c) :
    (s.pushWork ((stage c).place (s.conn c).loop_) w).Lifecycle stage := by
  have hvacant : (s.pushWork ((stage c).place (s.conn c).loop_) w).Staged stage :=
    h.congr rfl (fun _ => ⟨rfl, rfl, rfl⟩) h.fits rfl rfl
  refine ⟨hvacant, fun c' hc' => ?_⟩
  by_cases heq : c' = c
  · rw [heq]
    exact h.idle.pushWork hwork hw
  · refine (h.others c' hc' heq).pushWork fun hcontrol => heq ?_
    rw [hw] at hcontrol
    exact (Option.some.inj hcontrol).symm

/-- Other work will wait for the connection. -/
lemma Vacant.restage (h : s.Vacant stage c) (halike : (stage c).Alike st) :
    s.Vacant (Function.update stage c st) c := by
  refine h.move (h.toStaged.restage fun c' _ => ?_) rfl rfl fun _ _ => rfl
  by_cases heq : c' = c
  · rwa [heq, Function.update_self]
  · rw [Function.update_of_ne heq]
    exact .refl _

/-- The read handler of the connection has returned. -/
lemma Vacant.read (h : s.Vacant stage c) (hst : stage c = .up true) :
    s.Lifecycle (Function.update stage c (.up false)) := by
  refine Vacant.done (c := c) (h.restage ?_) ?_
  · rw [hst]
    exact Stage.alike_up true false
  · rw [Function.update_self]
    rfl

/-- `connectEstablished` takes its connection to the stage `up`, which needs no work. -/
lemma Vacant.establish (h : s.Vacant stage c) (hst : stage c = .connecting)
    (heffect : s.Effect c (.establish (s.conn c).loop_) s') :
    (s'.enterUser i (some c)).Lifecycle (Function.update stage c (.up false)) := by
  refine (Vacant.done (c := c) ?_ ?_).enterUser
  · exact h.move (h.toStaged.establish h.exists_ hst heffect) heffect.created_eq heffect.works_eq
      heffect.extends.2
  · rw [Function.update_self]
    rfl

/-- The connection callback on the way down, out of a connection that is up. -/
lemma Vacant.close {reading : Bool} (h : s.Vacant stage c) (hst : stage c = .up reading)
    (hdown : s.callsDown s' (s.conn c).loop_ c (.closeCallback c)) :
    s'.Lifecycle (Function.update stage c .closing) := by
  obtain ⟨s₁, heffect, rfl⟩ := hdown
  have hvacant := h.move (h.toStaged.close h.exists_ hst heffect) heffect.created_eq
    heffect.works_eq heffect.extends.2
  have hplace : (Function.update stage c Stage.closing c).place (s₁.conn c).loop_ =
      (s.conn c).loop_ := by
    rw [Function.update_self]
    exact heffect.extends.2 c h.exists_
  have hwork : (Function.update stage c Stage.closing c).work c = some (.closeCallback c) := by
    rw [Function.update_self]
    rfl
  have hpushed := hvacant.pushWork hwork rfl
  rw [hplace] at hpushed
  exact hpushed.enterUser

/-- `removeConnectionInLoop` hands the connection over to its `connectDestroyed`. -/
lemma Vacant.removed (h : s.Vacant stage c)
    (hst : stage c = .closing ∨ stage c = .removing) (hremoved : s.removed s' c) :
    s'.Lifecycle (Function.update stage c .removed) := by
  obtain ⟨s₁, heffect, -, rfl⟩ := hremoved
  have hvacant : (s₁.unmap (s.conn c).name_).Vacant (Function.update stage c .removed) c :=
    h.move (h.toStaged.removal h.exists_ hst heffect) heffect.created_eq heffect.works_eq
      heffect.extends.2
  have hplace : (Function.update stage c Stage.removed c).place
      ((s₁.unmap (s.conn c).name_).conn c).loop_ = (s.conn c).loop_ := by
    rw [Function.update_self]
    exact heffect.extends.2 c h.exists_
  have hwork : (Function.update stage c Stage.removed c).work c =
      some (.task (.connectDestroyed c)) := by
    rw [Function.update_self]
    rfl
  have hqueued := hvacant.queueInLoop hwork rfl
  rwa [hplace] at hqueued

/-- The removal of the channel ends the stages of a connection. -/
lemma Vacant.gone (h : s.Vacant stage c) (hst : stage c = .removed)
    (hremoved : s.channelRemoved s' c) : s'.Lifecycle (Function.update stage c .gone) := by
  have hstaged := h.toStaged.gone h.exists_ hst hremoved
  obtain ⟨p, -, rfl⟩ := hremoved
  refine Vacant.done (c := c) (h.move hstaged rfl rfl fun c' _ => ?_) ?_
  · rw [TcpServer.touch, Function.update_eq_self]
  · rw [Function.update_self]
    rfl

/-! ## Steps -/

/-- Work that is placed is in the loop of its connection. -/
lemma Placed.eq_loop (hw : s.Lives c i) : i = (s.conn c).loop_ := hw.2.symm

/-- The work of a stage waits. -/
lemma Lifecycle.mem_works (h : s.Lifecycle stage) (hc : c < s.created)
    (hwork : (stage c).work c = some w) : w ∈ s.works ((stage c).place (s.conn c).loop_) := by
  have hcontrols := h.control c hc ((stage c).place (s.conn c).loop_)
  rw [if_pos rfl, hwork, Option.toList_some] at hcontrols
  have hmem : w ∈ s.controls c ((stage c).place (s.conn c).loop_) := by
    rw [hcontrols]
    exact List.mem_singleton_self w
  exact List.mem_of_mem_filter hmem

/-- A read handler that waits is on the list of the loop thread, not in its queue. -/
lemma Lifecycle.mem_todo (h : s.Lifecycle stage) (hc : s.Lives c i) (hst : stage c = .up true) :
    Work.handleRead c ∈ (s.thread i).todo := by
  obtain ⟨hlt, rfl⟩ := hc
  have hmem := h.mem_works hlt (by rw [hst]; rfl : (stage c).work c = some (.handleRead c))
  rw [hst] at hmem
  rcases List.mem_append.mp hmem with hmem | hmem
  · exact hmem
  · simp at hmem

/-- A task and a read handler do not wait in one loop at the same time. -/
lemma Lifecycle.not_reading (h : s.Lifecycle stage) (hplaced : s.Placed) (hc : s.Lives c i)
    (hnext : s.Next i (.task t)) : stage c ≠ .up true := by
  intro hst
  have hth := hplaced.threads i
  have htasks : (s.thread i).phase = .tasks := by
    refine hth.part (.task t) ?_
    rw [hnext.todo_eq]
    exact List.mem_cons_self
  have hhandlers : (s.thread i).phase = .handlers := hth.part _ (h.mem_todo hc hst)
  rw [htasks] at hhandlers
  cases hhandlers

/-- Tasks that are bound to a raw pointer take no connection to another stage. -/
lemma control_eq_none_of_raw (ht : t.raw ≠ none) : (Work.task t).control = none := by
  cases t <;> first | rfl | exact absurd rfl ht

/-- The stages after a piece of work is done, one case for each kind. -/
lemma Lifecycle.worked {a : Action} (h : s.Lifecycle stage) (hplaced : s.Placed)
    (hnext : s.Next i w) (hworked : (s.pop i).Worked i w a s') :
    ∃ stage', s'.Lifecycle stage' := by
  have hat := hplaced.workAt hnext
  -- a handler or a task that leaves the stage as it is
  have hstays : ∀ {c e s₁}, w.control = none → c < s.created → Stage.Stays e →
      (s.pop i).Effect c e s₁ → s₁.Lifecycle stage :=
    fun hw hc he heffect => (h.pop hnext hw).effect hc he heffect
  cases hworked with
  | nothing _ hw _ =>
    rcases hw with rfl | ⟨c, rfl⟩ | ⟨c, rfl⟩ | ⟨t, rfl, hraw⟩
    · exact ⟨stage, h.pop hnext rfl⟩
    · obtain ⟨hst, -, hvacant⟩ := h.take hat.1 hnext rfl
      exact ⟨_, hvacant.read (Option.some.inj hst).symm⟩
    · exact ⟨stage, h.pop hnext rfl⟩
    · exact ⟨stage, h.pop hnext (control_eq_none_of_raw hraw)⟩
  | established heffect =>
    obtain ⟨hst, -, hvacant⟩ := h.take hat.1 hnext rfl
    obtain rfl := Placed.eq_loop hat
    exact ⟨_, hvacant.establish (Option.some.inj hst).symm heffect⟩
  | @destroyedDown c s₁ hdown =>
    -- the state is `kDisconnected`
    obtain ⟨hst, -, hvacant⟩ := h.take hat.1 hnext rfl
    obtain ⟨s₁, heffect, -⟩ := hdown
    have hstate : ((s.pop i).conn c).state_ = .kConnected ∨
        ((s.pop i).conn c).state_ = .kDisconnecting := by
      obtain ⟨conn, p, hstep, -, -⟩ := heffect
      cases hstep with
      | close i hstate => exact hstate
    obtain ⟨reading, hup⟩ := (hvacant.fits c hat.1).eq_up hstate
    rw [← Option.some.inj hst] at hup
    cases hup
  | destroyed hgone =>
    obtain ⟨hst, -, hvacant⟩ := h.take hat.1 hnext rfl
    exact ⟨_, hvacant.gone (Option.some.inj hst).symm hgone⟩
  | removedTask hremoved =>
    obtain ⟨hst, -, hvacant⟩ := h.take hat.1 hnext rfl
    exact ⟨_, hvacant.removed (Or.inr (Option.some.inj hst).symm) hremoved⟩
  | removedHere hremoved =>
    obtain ⟨hst, -, hvacant⟩ := h.take hat.1 hnext rfl
    exact ⟨_, hvacant.removed (Or.inl (Option.some.inj hst).symm) hremoved⟩
  | removedQueued c =>
    obtain ⟨hst, -, hvacant⟩ := h.take hat.1 hnext rfl
    have hmoved : (s.pop i).Vacant (Function.update stage c .removing) c :=
      hvacant.restage (Option.some.inj hst ▸ Stage.alike_closing)
    have hwork : (Function.update stage c Stage.removing c).work c =
        some (.task (.removeConnectionInLoop c)) := by
      rw [Function.update_self]
      rfl
    have hqueued := hmoved.queueInLoop hwork rfl
    rw [Function.update_self] at hqueued
    exact ⟨_, hqueued⟩
  | channelRemoved hgone =>
    obtain ⟨hst, -, -⟩ := h.take hat.1 hnext rfl
    cases hst
  | writeComplete c => exact ⟨stage, (h.pop hnext rfl).enterUser⟩
  | accepted haccept => exact ⟨stage, hstays rfl hat.1.1 (by simp [Stage.Stays]) haccept⟩
  | shutdown hshutdown => exact ⟨stage, hstays rfl hat.1 (by simp [Stage.Stays]) hshutdown⟩
  | @closed c s₁ hdown =>
    have hpopped := h.pop hnext rfl
    have hup : ∃ reading, stage c = .up reading := by
      obtain ⟨s₁, ⟨conn, p, hstep, -, -⟩, -⟩ := hdown
      cases hstep with
      | close i hstate => exact (hpopped.fits c hat.1).eq_up hstate
    obtain ⟨reading, hst⟩ := hup
    cases reading with
    | true => exact absurd hst (h.not_reading hplaced hat hnext)
    | false =>
      obtain rfl := Placed.eq_loop hat
      exact ⟨_, (hpopped.vacant hat.1 (by rw [hst]; rfl)).close hst hdown⟩
  | again c => exact ⟨stage, (h.pop hnext rfl).queueInLoop rfl⟩
  | @peerClosed c data s₁ hdown =>
    obtain ⟨hst, -, hvacant⟩ := h.take hat.1 hnext rfl
    obtain rfl := Placed.eq_loop hat
    exact ⟨_, hvacant.close (Option.some.inj hst).symm hdown⟩
  | @read c data s₁ hread =>
    obtain ⟨hst, -, hvacant⟩ := h.take hat.1 hnext rfl
    have hread' := (hvacant.read (Option.some.inj hst).symm).effect hat.1 (by simp [Stage.Stays]) hread
    exact ⟨_, hread'.enterUser⟩
  | written hwrite => exact ⟨stage, hstays rfl hat.1 (by simp [Stage.Stays]) hwrite⟩
  | writtenAll hwrite =>
    exact ⟨stage, (hstays rfl hat.1 (by simp [Stage.Stays]) hwrite).queueInLoop rfl⟩
  | userTask => exact ⟨stage, (h.pop hnext rfl).enterUser⟩
  | userHandler => exact ⟨stage, (h.pop hnext rfl).enterUser⟩

/-- A step of a loop that leaves its work and all connections as they are. -/
lemma Lifecycle.congr (h : s.Lifecycle stage) (hworks : ∀ j, s'.works j = s.works j)
    (hcreated : s'.created = s.created) (hconn : s'.conn = s.conn)
    (hpoller : s'.poller = s.poller) (hmap : s'.connections_ = s.connections_) :
    s'.Lifecycle stage where
  toStaged := by
    refine h.toStaged.congr hcreated (fun c => ?_) (fun c hc => ?_) hpoller hmap
    · rw [hconn]
      exact ⟨rfl, rfl, rfl⟩
    · rw [hconn]
      exact h.fits c hc
  control c hc := (h.control c (hcreated ▸ hc)).congr (funext hworks) (by rw [hconn])

/-- A call of a member leaves all stages. -/
lemma Lifecycle.called {a : Action} {th : Thread} (h : s.Lifecycle stage) (hplaced : s.Placed)
    (hholds : s.Holds th c) (hcalled : s.Called th c a s') : s'.Lifecycle stage := by
  have hc := hplaced.holds hholds
  have hstays : ∀ {e s₁}, Stage.Stays e → s.Effect c e s₁ → s₁.Lifecycle stage :=
    fun he heffect => h.effect hc he heffect
  cases hcalled with
  | sendQueued hout hlength hsend => exact (hstays (by simp [Stage.Stays]) hsend).queueInLoop rfl
  | sendIgnored hin hsend => exact hstays (by simp [Stage.Stays]) hsend
  | sendAccepted hin hsend haccept =>
    exact (hstays (by simp [Stage.Stays]) hsend).effect (hsend.created_eq ▸ hc)
      (by simp [Stage.Stays]) haccept
  | shutdownQueued hout => exact h.queueInLoop rfl
  | shutdownIgnored hstate => exact h
  | shutdownRun hin hshutdown => exact hstays (by simp [Stage.Stays]) hshutdown
  | close => exact h.queueInLoop rfl
  | closeInNextLoop => exact h.queueInLoop rfl

/-! ## Connections that are made -/

/-- A connection that is not gone is pointed to. -/
lemma Lifecycle.alive (h : s.Lifecycle stage) (hplaced : s.Placed) (hc : c < s.created)
    (hlive : stage c ≠ .gone) : s.Alive c := by
  by_cases hst : stage c = .removed
  · -- by its `connectDestroyed`
    have hmem := h.mem_works hc (by rw [hst]; rfl : (stage c).work c =
      some (.task (.connectDestroyed c)))
    rw [hst] at hmem
    refine Or.inr (Or.inr ⟨_, hplaced.loops c hc, Or.inr ⟨.connectDestroyed c, ?_, rfl⟩⟩)
    rcases List.mem_append.mp hmem with hmem | hmem
    · exact List.mem_append_left _ ((hplaced.threads _).batch _ hmem)
    · obtain ⟨t, ht, heq⟩ := List.mem_map.mp hmem
      cases heq
      exact List.mem_append_right _ ht
  · refine Or.inl (h.mapped c hc ?_)
    cases hstage : stage c with
    | removed => exact absurd hstage hst
    | gone => exact absurd hstage hlive
    | _ => rfl

/-- A new connection, with a name and a descriptor that no other one has. -/
lemma Staged.withConnection (h : s.Staged stage) {fd : ℕ}
    (hfree : s.connections_ (connName s.name_ s.nextConnId_) = none)
    (hfresh : ∀ c < s.created, stage c ≠ .gone → (s.conn c).connChannel_.fd_ ≠ fd) :
    (s.withConnection fd).Staged (Function.update stage s.created .connecting) := by
  have hold : ∀ {c}, c ≠ s.created → (s.withConnection fd).conn c = s.conn c ∧
      Function.update stage s.created .connecting c = stage c := fun hne =>
    ⟨Function.update_of_ne hne _ _, Function.update_of_ne hne _ _⟩
  have hnew : (s.withConnection fd).conn s.created = s.opened fd := Function.update_self ..
  have hlt : ∀ {c}, c < s.created + 1 → c ≠ s.created → c < s.created := fun hc hne => by omega
  constructor
  · intro c hc
    by_cases heq : c = s.created
    · rw [heq, Function.update_self, hnew]
      exact ⟨List.mem_singleton_self _, rfl, rfl, rfl, List.mem_singleton_self _⟩
    · rw [(hold heq).1, (hold heq).2]
      exact h.fits c (hlt hc heq)
  · intro c hc hremovals
    show Function.update s.connections_ (connName s.name_ s.nextConnId_) (some s.created) _ = _
    by_cases heq : c = s.created
    · rw [heq, hnew]
      exact Function.update_self ..
    · rw [(hold heq).2] at hremovals
      have hmap := h.mapped c (hlt hc heq) hremovals
      have hne : (s.conn c).name_ ≠ connName s.name_ s.nextConnId_ := by
        intro hname
        rw [hname, hfree] at hmap
        cases hmap
      rw [(hold heq).1, Function.update_of_ne hne]
      exact hmap
  · intro c hc hne
    by_cases heq : c = s.created
    · rw [heq, hnew, Function.update_self]
      show (s.poller s.nextLoop).entry fd = (none, none)
      by_contra hsome
      obtain ⟨c', hc', hlive, -, hfd⟩ := h.table _ _ hsome
      exact hfresh c' hc' hlive hfd
    · rw [(hold heq).2] at hne ⊢
      rw [(hold heq).1]
      exact h.entry c (hlt hc heq) hne
  · intro i fd' hsome
    obtain ⟨c, hc, hlive, hi, hfd⟩ := h.table i fd' hsome
    have hne : c ≠ s.created := Nat.ne_of_lt hc
    refine ⟨c, Nat.lt_succ_of_lt hc, ?_, ?_, ?_⟩
    · rwa [(hold hne).2]
    · rwa [(hold hne).1]
    · rwa [(hold hne).1]
  · -- the descriptors of the others
    have hother : ∀ c < s.created + 1, c ≠ s.created →
        Function.update stage s.created .connecting c ≠ .gone →
        ((s.withConnection fd).conn c).connChannel_.fd_ ≠ fd := by
      intro c hc hne hlive
      rw [(hold hne).2] at hlive
      rw [(hold hne).1]
      exact hfresh c (hlt hc hne) hlive
    intro c hc c' hc' hlive hlive' hfd
    by_cases heq : c = s.created <;> by_cases heq' : c' = s.created
    · rw [heq, heq']
    · rw [heq, hnew] at hfd
      exact absurd hfd.symm (hother c' hc' heq' hlive')
    · rw [heq', hnew] at hfd
      exact absurd hfd (hother c hc heq hlive)
    · rw [(hold heq).1, (hold heq').1] at hfd
      rw [(hold heq).2] at hlive
      rw [(hold heq').2] at hlive'
      exact h.fds c (hlt hc heq) c' (hlt hc' heq') hlive hlive' hfd

/-- A new connection begins in the stage `connecting`, its work not yet in place. -/
lemma Lifecycle.withConnection (h : s.Lifecycle stage) (hplaced : s.Placed) {fd : ℕ}
    (hfree : s.connections_ (connName s.name_ s.nextConnId_) = none)
    (hfd : ∀ c < s.created, s.Alive c → (s.conn c).connChannel_.fd_ ≠ fd) :
    (s.withConnection fd).Vacant (Function.update stage s.created .connecting) s.created := by
  have hold : ∀ {c}, c ≠ s.created → (s.withConnection fd).conn c = s.conn c := fun hne =>
    Function.update_of_ne hne _ _
  refine ⟨h.toStaged.withConnection hfree fun c hc hlive =>
    hfd c hc (h.alive hplaced hc hlive), Nat.lt_succ_self _, fun c hc hne => ?_, ?_⟩
  · have hc : c < s.created := lt_of_le_of_ne (Nat.lt_succ_iff.mp hc) hne
    rw [Function.update_of_ne hne]
    exact (h.control c hc).congr rfl (by rw [hold hne])
  · exact (hplaced.idle (lt_irrefl s.created)).congr rfl

/-! ## What `poll` reports -/

/-- A connection whose channel the kernel has is up. -/
lemma Staged.up_of_epoll (h : s.Staged stage) (hplaced : s.Placed) {events : BitVec 32}
    (hepoll : (s.poller i).epoll (s.conn c).connChannel_.fd_ = some (c, events)) :
    ∃ reading, stage c = .up reading := by
  obtain ⟨hc, rfl⟩ := hplaced.kernel i _ c events hepoll
  have hup : ∀ c' < s.created, stage c' ≠ .gone → (s.conn c').loop_ = (s.conn c).loop_ →
      (s.conn c').connChannel_.fd_ = (s.conn c).connChannel_.fd_ →
      c' = c ∧ ∃ reading, stage c' = .up reading := by
    intro c' hc' hlive hloop hfd
    have hentry := congrArg Prod.snd (h.entry c' hc' hlive)
    rw [hloop, hfd] at hentry
    have hentry : some (c, events) = _ := hepoll.symm.trans hentry
    cases hst : stage c' with
    | up reading =>
      rw [hst] at hentry
      exact ⟨(Prod.mk.inj (Option.some.inj hentry)).1.symm, reading, rfl⟩
    | _ =>
      rw [hst] at hentry
      cases hentry
  have hsome : (s.poller (s.conn c).loop_).entry (s.conn c).connChannel_.fd_ ≠ (none, none) := by
    intro hnone
    have hnone := congrArg Prod.snd hnone
    have hnone : some (c, events) = none := hepoll.symm.trans hnone
    cases hnone
  -- so the entry belongs to a connection that is not gone, and its pointer says which
  obtain ⟨c', hc', hlive, hloop, hfd⟩ := h.table _ _ hsome
  obtain ⟨rfl, hst⟩ := hup c' hc' hlive hloop hfd
  exact hst

/-- The connection that a reported channel belongs to. -/
def Ready.ptr : Ready → Option ConnId
  | .conn c _ _ => some c
  | _ => none

/-- A reported channel leaves one piece of work that takes its connection to another stage, the read
handler. -/
lemma Ready.filter_work (r : Ready) : (r.work.filter fun w => w.control = some c) =
    if Work.handleRead c ∈ r.work then [.handleRead c] else [] := by
  cases r with
  | conn c' read write =>
    by_cases hc : c' = c
    · subst hc
      cases read <;> cases write <;> simp [work, Work.control]
    · cases read <;> cases write <;> simp [work, Work.control, hc, Ne.symm hc]
  | acceptor => rfl
  | other => rfl

/-- A read handler comes from its own channel. -/
lemma Ready.ptr_of_mem {r : Ready} (h : Work.handleRead c ∈ r.work) : r.ptr = some c := by
  cases r with
  | conn c' read write =>
    cases read <;> cases write <;> simp [work] at h <;> rw [h] <;> rfl
  | acceptor => simp [work] at h
  | other => simp [work] at h

/-- At most one read handler is called for a connection. -/
lemma filter_readyWork {active : List Ready} (hnodup : (active.filterMap Ready.ptr).Nodup) :
    ((active.flatMap Ready.work).filter fun w => w.control = some c) =
      if Work.handleRead c ∈ active.flatMap Ready.work then [.handleRead c] else [] := by
  induction active with
  | nil => rfl
  | cons r active ih =>
    have hsplit : Work.handleRead c ∈ (r :: active).flatMap Ready.work ↔
        Work.handleRead c ∈ r.work ∨ Work.handleRead c ∈ active.flatMap Ready.work := by
      rw [List.flatMap_cons, List.mem_append]
    by_cases hr : Work.handleRead c ∈ r.work
    · -- no other channel belongs to the connection
      rw [List.filterMap_cons, Ready.ptr_of_mem hr, List.nodup_cons] at hnodup
      have hrest : Work.handleRead c ∉ active.flatMap Ready.work := by
        intro hmem
        obtain ⟨r', hr', hmem⟩ := List.mem_flatMap.mp hmem
        exact hnodup.1 (List.mem_filterMap.mpr ⟨r', hr', Ready.ptr_of_mem hmem⟩)
      rw [if_pos (hsplit.mpr (Or.inl hr)), List.flatMap_cons, List.filter_append, r.filter_work,
        if_pos hr, ih hnodup.2, if_neg hrest, List.append_nil]
    · have hnodup' : (active.filterMap Ready.ptr).Nodup :=
        hnodup.sublist ((List.sublist_cons_self r active).filterMap _)
      rw [List.flatMap_cons, List.filter_append, r.filter_work, if_neg hr, ih hnodup',
        List.nil_append, ← List.flatMap_cons]
      simp only [hsplit, hr, false_or]

/-- The read handlers that `poll` makes wait are of connections that are up. -/
lemma Lifecycle.poll {active : List Ready} (h : s.Lifecycle stage) (hplaced : s.Placed)
    (hallowed : s.allowed (.poll i active)) :
    (s.setThread i { s.thread i with phase := .handlers, todo := active.flatMap Ready.work }).Lifecycle
      fun c => if Work.handleRead c ∈ active.flatMap Ready.work then .up true else stage c := by
  obtain ⟨hphase, -, hnodup, hready⟩ := hallowed
  have hnodup : (active.filterMap Ready.ptr).Nodup := hnodup
  have htodo : (s.thread i).todo = [] := (hplaced.threads i).todo_eq_nil (by rw [hphase]; decide)
  -- a connection to be read is up, and nothing of it waits
  have hup : ∀ c, Work.handleRead c ∈ active.flatMap Ready.work →
      s.Lives c i ∧ stage c = .up false := by
    intro c hmem
    obtain ⟨r, hr, hmem⟩ := List.mem_flatMap.mp hmem
    have hreadyIn := hready r hr
    have hr := Ready.ptr_of_mem hmem
    cases r with
    | conn c' read write =>
      obtain rfl := Option.some.inj hr
      unfold ReadyIn at hreadyIn
      simp only at hreadyIn
      split at hreadyIn
      · rename_i ptr events hepoll
        obtain ⟨rfl, -, -⟩ := hreadyIn
        have hlives := hplaced.kernel i _ _ events hepoll
        refine ⟨hlives, ?_⟩
        obtain ⟨reading, hst⟩ := h.up_of_epoll hplaced hepoll
        cases reading with
        | false => exact hst
        | true =>
          have hmem := h.mem_todo hlives hst
          rw [htodo] at hmem
          cases hmem
      · exact hreadyIn.elim
    | acceptor => cases hr
    | other => cases hr
  have hstaged : s.Staged fun c =>
      if Work.handleRead c ∈ active.flatMap Ready.work then .up true else stage c := by
    refine h.toStaged.restage fun c _ => ?_
    split
    · rename_i hmem
      rw [(hup c hmem).2]
      exact Stage.alike_up false true
    · exact .refl _
  refine ⟨hstaged.congr rfl (fun _ => ⟨rfl, rfl, rfl⟩) hstaged.fits rfl rfl, fun c hc j => ?_⟩
  -- the new handlers come in front of what waited
  have hcontrols : (s.setThread i { s.thread i with
      phase := .handlers, todo := active.flatMap Ready.work }).controls c j =
      (if j = i ∧ Work.handleRead c ∈ active.flatMap Ready.work then [.handleRead c] else []) ++
        s.controls c j := by
    by_cases hj : j = i
    · subst hj
      rw [controls, controls, works, works, setThread_thread_self, setThread_loop, htodo,
        List.filter_append, filter_readyWork hnodup, List.nil_append]
      simp only [true_and]
    · rw [if_neg fun hboth => hj hboth.1, List.nil_append, controls, controls, works, works,
        setThread_thread_ne _ _ _ hj, setThread_loop]
  rw [hcontrols]
  show _ = if j = Stage.place (s.conn c).loop_ (if _ then _ else _) then _ else []
  by_cases hmem : Work.handleRead c ∈ active.flatMap Ready.work
  · obtain ⟨⟨_, hloop⟩, hst⟩ := hup c hmem
    have hidle : s.Idle c := by
      have hcontrol := h.control c hc
      rw [hst] at hcontrol
      exact (controlled_iff_idle rfl).mp hcontrol
    rw [hidle j, List.append_nil, if_pos hmem, hloop]
    by_cases hj : j = i
    · rw [if_pos ⟨hj, hmem⟩]
      exact (if_pos hj).symm
    · rw [if_neg fun hboth => hj hboth.1]
      exact (if_neg hj).symm
  · rw [if_neg fun hboth => hmem hboth.2, List.nil_append, if_neg hmem]
    exact h.control c hc j

/-! ## Every step, every run -/

/-- Every action that finds its name and descriptor free leads from stages to stages. -/
lemma Lifecycle.outcome {a : Action} (h : s.Lifecycle stage) (hplaced : s.Placed)
    (hfree : s.FindsFree a) (hallowed : s.allowed a) (houtcome : s.Outcome a s') :
    ∃ stage', s'.Lifecycle stage' := by
  cases houtcome with
  | @start i hi hphase =>
    exact ⟨stage, h.congr (works_started s i) rfl rfl rfl rfl⟩
  | @swap i hphase =>
    have htodo : (s.thread i).todo = [] := (hplaced.threads i).todo_eq_nil (by rw [hphase]; decide)
    exact ⟨stage, h.congr (fun _ => works_swap htodo) rfl rfl rfl rfl⟩
  | endTasks => exact ⟨stage, h.congr (fun _ => works_setThread rfl) rfl rfl rfl rfl⟩
  | poll hallowed => exact ⟨_, h.poll hplaced hallowed⟩
  | endHandlers => exact ⟨stage, h.congr (fun _ => works_setThread rfl) rfl rfl rfl rfl⟩
  | userReturns => exact ⟨stage, h.congr (fun _ => works_setThread rfl) rfl rfl rfl rfl⟩
  | work hnext hworked => exact h.worked hplaced hnext hworked
  | @acceptQueued i fd hnext =>
    -- the new connection waits for `connectEstablished`
    have hvacant := h.withConnection hplaced hfree (hallowed.2 fd rfl)
    have hwork : (Function.update stage s.created Stage.connecting s.created).work s.created =
        some (.task (.connectEstablished s.created)) := by
      rw [Function.update_self]
      rfl
    have hqueued := hvacant.queueInLoop hwork rfl
    rw [Function.update_self] at hqueued
    exact ⟨_, (lives_created (s := s) fd).2 ▸ hqueued⟩
  | @acceptHere i fd s₁ hnext hin heffect =>
    have hvacant := h.withConnection hplaced hfree (hallowed.2 fd rfl)
    have hi : Thread.loop i = .loop s.nextLoop := hplaced.thread_eq hin
    rw [Thread.loop.inj hi, ← (lives_created (s := s) fd).2] at heffect
    exact ⟨_, hvacant.establish (Function.update_self ..) heffect⟩
  | call hholds hcalled => exact ⟨stage, h.called hplaced hholds hcalled⟩
  | queueUser => exact ⟨stage, h.queueInLoop rfl⟩
  | @retrieve i c len s₁ hretrieve =>
    exact ⟨stage, h.effect (hplaced.user i c hallowed.1).1 (by simp [Stage.Stays]) hretrieve⟩
  | copyPtr hholds => exact ⟨stage, h.congr (fun _ => rfl) rfl rfl rfl rfl⟩
  | dropPtr c => exact ⟨stage, h.congr (fun _ => rfl) rfl rfl rfl rfl⟩

lemma lifecycle_initial (size_ : ℕ) (name_ : Bytes) (callback : Bool) :
    (initial size_ name_ callback).Lifecycle fun _ => .gone where
  fits c hc := absurd hc (Nat.not_lt_zero c)
  mapped c hc := absurd hc (Nat.not_lt_zero c)
  entry c hc := absurd hc (Nat.not_lt_zero c)
  table _ _ hsome := absurd rfl hsome
  fds c hc := absurd hc (Nat.not_lt_zero c)
  control c hc := absurd hc (Nat.not_lt_zero c)

lemma staged_initial (size_ : ℕ) (name_ : Bytes) (callback : Bool) :
    (initial size_ name_ callback).Placed ∧ ∃ stage, (initial size_ name_ callback).Lifecycle stage :=
  ⟨placed_initial _ _ _, _, lifecycle_initial _ _ _⟩

lemma staged_step {a : Action} (h : s.Placed ∧ ∃ stage, s.Lifecycle stage) (hfree : s.FindsFree a)
    (hallowed : machine.allowed s a) (hexec : machine.exec s a = .ok s') :
    s'.Placed ∧ ∃ stage, s'.Lifecycle stage := by
  obtain ⟨hplaced, stage, hlifecycle⟩ := h
  have houtcome := exec_outcome hallowed hexec
  exact ⟨hplaced.outcome hallowed houtcome, hlifecycle.outcome hplaced hfree hallowed houtcome⟩

/-- **The stages of a run** in which every new connection finds its name free. -/
theorem staged_of_run {size_ : ℕ} {name_ : Bytes} {callback : Bool} {as : List Action}
    (hrun : machine.Run (initial size_ name_ callback) as s)
    (hfree : machine.AllSteps FindsFree (initial size_ name_ callback) as) :
    s.Placed ∧ ∃ stage, s.Lifecycle stage :=
  hrun.invariant (I := fun s => s.Placed ∧ ∃ stage, s.Lifecycle stage) hfree
    (staged_initial _ _ _) fun _ _ _ h hfree => staged_step h hfree

/-- What holds of a server on which fewer than `2 ^ 31` connections are accepted. -/
structure Sound (s : TcpServer) : Prop where
  placed : s.Placed
  named : s.Named
  lifecycle : ∃ stage, s.Lifecycle stage

/-- **Every reachable state** has its stages. -/
theorem sound_of_run {P : TcpServer → Action → Prop} {size_ : ℕ} {name_ : Bytes} {callback : Bool}
    {as : List Action} (hrun : machine.Run (initial size_ name_ callback) as s)
    (hsteps : machine.AllSteps P (initial size_ name_ callback) as)
    (hfew : ∀ s a, P s a → s.Few a) : s.Sound := by
  have hnamed : s.Named := by
    refine hrun.invariant hsteps (named_initial _ _ _) ?_
    exact fun s a s' h hP hallowed hexec => h.outcome (hfew s a hP) (exec_outcome hallowed hexec)
  have hfree := findsFree_steps hrun hsteps fun s a hP => (hfew s a hP).recycled
  obtain ⟨hplaced, hlifecycle⟩ := staged_of_run hrun hfree
  exact ⟨hplaced, hnamed, hlifecycle⟩

end

end TcpServer
end Miniduo
