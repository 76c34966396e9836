import Miniduo.PlacementTheorems
import Miniduo.Server

/-!
# What a step of the server can do

`Did` lists the states in which an action can leave the server around its connections. From it,
`Placed` holds of the connections in every reachable state, with the destructor among the actions.
-/

namespace Miniduo

@[simp] lemma failing_eq_ok {α : Type} {x : Except Fault α} {a : α} :
    failing x = .ok a ↔ x = .ok a := by
  cases x <;> simp [failing, Except.mapError]

namespace Server

/-- The acceptor with its channel in the poller. -/
def listened (s : Server) (p : EPollPoller Unit) : Server :=
  { s with
    acceptor :=
      { acceptChannel_ := s.acceptor.acceptChannel_.enableReading true
        listening_ := true
        adds := s.acceptor.adds + 1 }
    poller := p }

/-- The poller takes the acceptor's channel. -/
def Adds (p : EPollPoller Unit) (ch : Channel) (p' : EPollPoller Unit) : Prop :=
  ∃ p₁, p.addChannel () ch = .ok p₁ ∧ p₁.updateChannel () (ch.enableReading true) = .ok p'

/-- The task that executes a queued `listen` is taken. -/
def popListen (s : Server) : Server :=
  { s with tcp := s.tcp.pop 0, userTasks := s.userTasks.tail }

def queuedListen (s : Server) (t : Thread) : Server :=
  { s with
    starting := s.starting.erase t
    tcp := s.tcp.queueInLoop 0 .user
    userTasks := s.userTasks ++ [.listen] }

/-- The server behind a step of the loops, of a connection or of the program. -/
def stepped (s : Server) (a : TcpServer.Action) (tcp : TcpServer) : Server :=
  { s with tcp := tcp, userTasks := s.userTasksAfter a, flags := s.flagsAfter a }

/-- The connections behind the destructor. -/
def tornDown (s : Server) : TcpServer :=
  let (here, away) := (connections s.tcp).partition fun c =>
    (s.tcp.loop (s.tcp.conn c).loop_).isInLoopThread 0
  { runDestroyed (away.foldl queueDestroyed s.tcp) here with connections_ := fun _ => none }

variable {s s' : Server} {i : ℕ}

lemma listen_ok (h : s.listen i = .ok s') :
    s.destroyed = false ∧ ∃ p, Adds s.poller s.acceptor.acceptChannel_ p ∧ s' = s.listened p := by
  rw [listen] at h
  split at h
  · cases h
  · rename_i hlives
    obtain ⟨_, _, h⟩ := except_bind_eq_ok.mp h
    obtain ⟨p₁, hadd, h⟩ := except_bind_eq_ok.mp h
    obtain ⟨p₂, hupdate, h⟩ := except_bind_eq_ok.mp h
    rw [failing_eq_ok] at hadd hupdate
    exact ⟨Bool.eq_false_iff.mpr hlives, p₂, ⟨p₁, hadd, hupdate⟩, (Except.ok.inj h).symm⟩

/-- `listen` returns in the loop thread when the poller does not have the channel. -/
lemma listen_returns (hlives : s.destroyed = false)
    (hin : (s.tcp.loop 0).isInLoopThread i = true)
    (hentry : s.poller.entry s.acceptor.acceptFd_ = (none, none))
    (hnone : s.acceptor.acceptChannel_.isNoneEvent = true) : ∃ s', s.listen i = .ok s' := by
  have hmask : s.acceptor.acceptChannel_.events_ = Channel.kNoneEvent := by
    simpa [Channel.isNoneEvent] using hnone
  have hsome : (s.acceptor.acceptChannel_.enableReading true).isNoneEvent = false := by
    show (s.acceptor.acceptChannel_.events_ ||| Channel.kReadEvent == Channel.kNoneEvent) = false
    rw [hmask]
    decide
  have hadd : s.poller.addChannel () s.acceptor.acceptChannel_ = .ok _ :=
    EPollPoller.addChannel_none hentry hnone
  have hnew : (s.poller.setEntry s.acceptor.acceptChannel_.fd_ (some ((), .NEW), none) []).entry
      (s.acceptor.acceptChannel_.enableReading true).fd_ = (some ((), .NEW), none) := by
    rw [Channel.enableReading_fd, EPollPoller.entry_setEntry_self]
  have hupdate := EPollPoller.updateChannel_add (by decide) hnew hsome
  have hthread : s.tcp.assertInLoopThread 0 i = .ok () :=
    (EventLoop.assertInLoopThread_eq_ok _ _).mpr hin
  rw [listen, hlives, if_neg Bool.false_ne_true]
  simp only [failing, Except.mapError, hthread, hadd, hupdate, except_ok_bind]
  exact ⟨_, rfl⟩

/-! ## One case for each thing an action can do -/

inductive Did (s : Server) : Action → Server → Prop
  | stepped {a : TcpServer.Action} {tcp : TcpServer} (hallowed : s.tcp.allowed a)
      (hadmits : s.Admits a) (hlistens : ¬s.Listens a)
      (hlives : s.destroyed = true → usesServer a = false) (hexec : s.tcp.exec a = .ok tcp) :
    Did s (.tcp a) (s.stepped a tcp)
  | listened {a : TcpServer.Action} {p : EPollPoller Unit} (hallowed : s.tcp.allowed a)
      (hlistens : s.Listens a) (hlives : s.destroyed = false)
      (hadds : Adds s.poller s.acceptor.acceptChannel_ p) :
    Did s (.tcp a) (s.popListen.listened p)
  | start {t : Thread} (hlives : s.destroyed = false) : Did s (.start t) (s.start t)
  | listenQueued {t : Thread} (ht : t ∈ s.starting)
      (hout : (s.tcp.loop 0).isInLoopThread t.tid = false) :
    Did s (.runListen t) (s.queuedListen t)
  | listenRun {t : Thread} {p : EPollPoller Unit} (ht : t ∈ s.starting)
      (hin : (s.tcp.loop 0).isInLoopThread t.tid = true) (hlives : s.destroyed = false)
      (hadds : Adds s.poller s.acceptor.acceptChannel_ p) :
    Did s (.runListen t) ({ s with starting := s.starting.erase t }.listened p)
  | destroyed {p : EPollPoller Unit} (hallowed : s.allowed .destroy)
      (htable : p.channels_ = s.poller.channels_)
      (hepoll : ∀ fd, s.poller.epoll fd = none → p.epoll fd = none) :
    Did s .destroy { s with tcp := s.tornDown, destroyed := true, poller := p }

/-- **Every action that returns** does one of the things listed. -/
theorem exec_did {a : Action} (hallowed : s.allowed a) (h : s.exec a = .ok s') : s.Did a s' := by
  cases a with
  | tcp a =>
    obtain ⟨hallowed, -, hadmits⟩ := hallowed
    simp only [exec, step] at h
    split at h
    · rename_i hlistens
      obtain ⟨hlives, p, hadds, rfl⟩ := listen_ok h
      exact .listened hallowed hlistens hlives hadds
    · rename_i hlistens
      split at h
      · cases h
      · rename_i hlives
        obtain ⟨tcp, hexec, h⟩ := except_bind_eq_ok.mp h
        rw [failing_eq_ok] at hexec
        obtain rfl := Except.ok.inj h
        refine .stepped hallowed hadmits hlistens (fun hdestroyed => ?_) hexec
        rw [hdestroyed, Bool.true_and] at hlives
        exact Bool.eq_false_iff.mpr hlives
  | start t =>
    obtain rfl := Except.ok.inj h
    exact .start hallowed.1
  | runListen t =>
    simp only [exec, runListen] at h
    split at h
    · rename_i hin
      obtain ⟨hlives, p, hadds, rfl⟩ := listen_ok h
      exact .listenRun hallowed hin hlives hadds
    · rename_i hout
      obtain rfl := Except.ok.inj h
      exact .listenQueued hallowed (Bool.eq_false_iff.mpr hout)
  | destroy =>
    obtain ⟨_, _, h⟩ := except_bind_eq_ok.mp h
    obtain rfl := Except.ok.inj h
    refine .destroyed hallowed ?_ fun fd hfd => ?_
    · split <;> rfl
    · split
      · show Function.update s.poller.epoll s.acceptor.acceptFd_ none fd = none
        rw [Function.update_apply, hfd, ite_self]
      · exact hfd

/-! ## The connections -/

lemma mem_connections {s : TcpServer} {c : ConnId} :
    c ∈ connections s ↔ c < s.created ∧ s.connections_ (s.conn c).name_ = some c := by
  rw [connections, List.mem_insertionSort, List.mem_filter, List.mem_range, decide_eq_true_eq]

lemma placed_queueDestroyed (cs : List ConnId) : ∀ {s : TcpServer}, s.Placed →
    (∀ c ∈ cs, c < s.created) → (cs.foldl queueDestroyed s).Placed := by
  induction cs with
  | nil => exact fun h _ => h
  | cons c cs ih =>
    intro s h hcs
    have hc : s.Lives c (s.conn c).loop_ := ⟨hcs c List.mem_cons_self, rfl⟩
    exact ih (h.queueInLoop (t := .connectDestroyed c) hc) fun c' hc' =>
      hcs c' (List.mem_cons_of_mem c hc')

lemma queueDestroyed_frame (cs : List ConnId) : ∀ s : TcpServer,
    (cs.foldl queueDestroyed s).created = s.created ∧ (cs.foldl queueDestroyed s).conn = s.conn ∧
      (cs.foldl queueDestroyed s).thread = s.thread ∧
      (cs.foldl queueDestroyed s).poller = s.poller ∧
      (cs.foldl queueDestroyed s).size_ = s.size_ := by
  induction cs with
  | nil => exact fun _ => ⟨rfl, rfl, rfl, rfl, rfl⟩
  | cons c cs ih => exact fun s => ih (queueDestroyed s c)

lemma placed_runDestroyed {s : TcpServer} {cs : List ConnId} (h : s.Placed)
    (hphase : (s.thread 0).phase = .tasks) (hcs : ∀ c ∈ cs, s.Lives c 0) :
    (runDestroyed s cs).Placed := by
  have hth := h.threads 0
  refine h.setThread ⟨?_, ?_, fun hu => absurd rfl hu⟩ Iff.rfl ?_ (fun c hu => nomatch hu)
  · intro w hw
    rcases List.mem_append.mp hw with hw | hw
    · obtain ⟨c, -, rfl⟩ := List.mem_map.mp hw
      exact hphase
    · exact hth.part w hw
  · intro t ht
    rcases List.mem_append.mp ht with ht | ht
    · obtain ⟨c, hc, heq⟩ := List.mem_map.mp ht
      obtain rfl := Work.task.inj heq
      exact List.mem_append_right _ (List.mem_map_of_mem hc)
    · exact List.mem_append_left _ (hth.batch t ht)
  · intro w hw
    rcases List.mem_append.mp hw with hw | hw
    · obtain ⟨c, hc, rfl⟩ := List.mem_map.mp hw
      exact hcs c hc
    · exact h.work 0 w (List.mem_append_left _ hw)

/-- The connections in the acceptor's loop, and those in other loops. -/
def here (s : Server) : List ConnId :=
  (connections s.tcp).filter fun c => (s.tcp.loop (s.tcp.conn c).loop_).isInLoopThread 0

def away (s : Server) : List ConnId :=
  (connections s.tcp).filter fun c => !(s.tcp.loop (s.tcp.conn c).loop_).isInLoopThread 0

lemma tornDown_eq (s : Server) : s.tornDown =
    { runDestroyed (s.away.foldl queueDestroyed s.tcp) s.here with
      connections_ := fun _ => none } := by
  rw [tornDown, List.partition_eq_filter_filter]
  rfl

/-- The destructor changes no connection and no table. -/
lemma tornDown_frame (s : Server) :
    s.tornDown.created = s.tcp.created ∧ s.tornDown.conn = s.tcp.conn ∧
      s.tornDown.poller = s.tcp.poller ∧ s.tornDown.size_ = s.tcp.size_ := by
  obtain ⟨hcreated, hconn, -, hpoller, hsize⟩ := queueDestroyed_frame s.away s.tcp
  rw [tornDown_eq]
  exact ⟨hcreated, hconn, hpoller, hsize⟩

lemma placed_tornDown (h : s.tcp.Placed) (hphase : (s.tcp.thread 0).phase = .tasks) :
    s.tornDown.Placed := by
  have hlt : ∀ c ∈ connections s.tcp, c < s.tcp.created := fun c hc => (mem_connections.mp hc).1
  have hqueued := placed_queueDestroyed s.away h
    fun c hc => hlt c (List.mem_of_mem_filter hc)
  obtain ⟨hcreated, hconn, hthread, -⟩ := queueDestroyed_frame s.away s.tcp
  rw [tornDown_eq]
  refine (placed_runDestroyed hqueued (by rw [hthread]; exact hphase) ?_).withConnections _
  intro c hc
  obtain ⟨hc, hin⟩ := List.mem_filter.mp hc
  refine ⟨by rw [hcreated]; exact hlt c hc, ?_⟩
  -- the only loop that recognises the thread is its own
  have heq : Thread.loop 0 = .loop (s.tcp.conn c).loop_ := h.thread_eq hin
  rw [hconn]
  exact (Thread.loop.inj heq).symm

lemma Did.placed {a : Action} (hdid : s.Did a s') (h : s.tcp.Placed) : s'.tcp.Placed := by
  cases hdid with
  | stepped hallowed _ _ _ hexec => exact TcpServer.placed_step h hallowed hexec
  | listened => exact h.pop
  | start => exact h
  | listenQueued => exact h.queueInLoop trivial
  | listenRun => exact h
  | destroyed hallowed => exact placed_tornDown h hallowed.2.2.1

variable {size_ : ℕ} {name_ : Bytes} {callback : Bool} {wakeupFd_ timerfd_ : ℕ → ℕ} {acceptFd_ : ℕ}
  {as : List Action}

theorem placed_of_run
    (hrun : machine.Run (initial size_ name_ callback wakeupFd_ timerfd_ acceptFd_) as s) :
    s.tcp.Placed :=
  hrun.preserves (I := fun s => s.tcp.Placed) (TcpServer.placed_initial _ _ _)
    fun _ _ _ h hallowed hexec => (exec_did hallowed hexec).placed h

end Server
end Miniduo
