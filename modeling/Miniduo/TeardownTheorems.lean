import Miniduo.NonblockingTheorems
import Miniduo.StartTheorems

/-!
# What the destructor leaves behind

The destructor hands every connection to `connectDestroyed`, and leaves alone what `start()` has
done: the acceptor's channel stays in the poller, and a `listen` that has not been executed stays in
the queue. A server that has not been started has neither, and no connections.
-/

namespace Miniduo
namespace Server

/-! ## The teardown of a server -/

/-- What executes the tasks that are queued, and finishes what has been begun: the steps of the
loops, when `poll` reports nothing and callbacks return. -/
def Drains : Action → Prop
  | .tcp (.poll _ active) => active = []
  | .tcp (.send ..) | .tcp (.shutdown ..) | .tcp (.close ..) | .tcp (.closeInNextLoop ..)
  | .tcp (.queueUser ..) | .tcp (.retrieve ..) | .tcp (.copyPtr ..) | .tcp (.dropPtr _)
  | .tcp (.acceptorRead _ (some _)) => False
  | .tcp _ => True
  | _ => False

/-- Nothing is left to do but code of the program. -/
structure Settled (s : Server) : Prop where
  works : ∀ i, ∀ w ∈ s.tcp.works i, w = .task .user ∨ w = .userHandler
  listen : .listen ∉ s.userTasks

/-- Every connection that was reported up has been reported down once, and no poller has a channel
of the server or of its connections. -/
structure Clean (s : Server) : Prop where
  down : ∀ c < s.tcp.created, (s.tcp.conn c).log.up ≠ [] → (s.tcp.conn c).log.down.length = 1
  acceptor : s.poller.channels_ s.acceptor.acceptFd_ = none
  connections : ∀ i fd, (s.tcp.poller i).channels_ fd = none

/-- A failed assertion, or the use of what has been destroyed. -/
def Bad : Failure → Prop
  | .fault f => f = .assertFailed ∨ f = .notInLoopThread
  | .destroyed => True

/-- The destructor returns; while the queued tasks are executed, none fails badly; they can be
executed, and behind them everything is clean. -/
def TornDown (s : Server) : Prop :=
  ∃ s₀, s.exec .destroy = .ok s₀ ∧
    (∀ as s', machine.Run s₀ as s' → (∀ a ∈ as, Drains a) →
      (∀ a f, Drains a → s'.allowed a → s'.exec a = .error f → ¬Bad f) ∧
        (s'.Settled → s'.Clean)) ∧
    ∃ as s', machine.Run s₀ as s' ∧ (∀ a ∈ as, Drains a) ∧ s'.Settled

/-! ## What `start()` has done -/

/-- The acceptor's channel is in the poller. -/
def InTable (s : Server) : Prop := s.poller.channels_ s.acceptor.acceptFd_ ≠ none

/-- A server that has been started has its channel in the poller, or a `listen` waits, or a thread
is about to queue one. -/
structure StartedInv (s : Server) : Prop where
  listening : s.acceptor.listening_ = true → s.InTable
  started : s.started_ = true → s.InTable ∨ .listen ∈ s.userTasks ∨ s.starting ≠ []

variable {s s' : Server} {a : Action}

/-- `listen` puts the channel of the acceptor into the poller. -/
lemma Adds.inTable {p : EPollPoller Unit} (h : Adds s.poller s.acceptor.acceptChannel_ p)
    (s₁ : Server) (hsame : s₁.acceptor = s.acceptor) : (s₁.listened p).InTable := by
  obtain ⟨p₁, -, hupdate⟩ := h
  have hmem := EPollPoller.updateChannel_mem hupdate
  show p.channels_ (s₁.acceptor.acceptChannel_.enableReading true).fd_ ≠ none
  rw [hsame]
  exact hmem

/-- The destructor removes no channel. -/
lemma inTable_destroy (hdid : s.Did .destroy s') : s'.InTable ↔ s.InTable := by
  cases hdid with
  | @destroyed p _ htable =>
    show p.channels_ s.acceptor.acceptFd_ ≠ none ↔ s.poller.channels_ s.acceptor.acceptFd_ ≠ none
    rw [htable]

/-- A step that executes no `listen` leaves it in its place. -/
lemma mem_userTasksAfter {a : TcpServer.Action} (hlistens : ¬s.Listens a)
    (h : .listen ∈ s.userTasks) : .listen ∈ s.userTasksAfter a := by
  unfold userTasksAfter
  split
  · exact List.mem_append_left _ h
  · -- the first of the tasks is not `listen`
    cases htasks : s.userTasks with
    | nil =>
      rw [htasks] at h
      exact h
    | cons t ts =>
      rw [htasks] at h
      refine (List.mem_cons.mp h).resolve_left ?_
      rintro rfl
      exact hlistens ⟨rfl, by rw [htasks]; rfl⟩
  · exact h

/-- Every step keeps what `start()` has done. -/
lemma startedInv_step (h : s.StartedInv) (hdid : s.Did a s') : s'.StartedInv := by
  cases hdid with
  | stepped hallowed hadmits hlistens hlives hexec =>
    exact ⟨h.listening, fun hstarted => (h.started hstarted).imp_right
      (Or.imp_left (mem_userTasksAfter hlistens))⟩
  | listened _ _ _ hadds =>
    have htable := hadds.inTable s.popListen rfl
    exact ⟨fun _ => htable, fun _ => Or.inl htable⟩
  | @start t hlives =>
    refine ⟨h.listening, fun _ => ?_⟩
    cases hlistening : s.acceptor.listening_ with
    | true => exact Or.inl (h.listening hlistening)
    | false =>
      refine Or.inr (Or.inr ?_)
      simp [Server.start, hlistening]
  | listenQueued =>
    exact ⟨h.listening, fun _ => Or.inr (Or.inl (List.mem_append_right _ List.mem_cons_self))⟩
  | @listenRun t p _ _ _ hadds =>
    have htable := hadds.inTable { s with starting := s.starting.erase t } rfl
    exact ⟨fun _ => htable, fun _ => Or.inl htable⟩
  | destroyed hallowed htable hepoll =>
    have hsame := inTable_destroy (.destroyed hallowed htable hepoll)
    exact ⟨fun hlistening => hsame.mpr (h.listening hlistening),
      fun hstarted => (h.started hstarted).imp_left hsame.mpr⟩

/-! ## What is left -/

/-- Behind the destructor, the channel is in the poller or a `listen` waits. -/
structure Leaks (s : Server) : Prop where
  destroyed : s.destroyed = true
  left : s.InTable ∨ .listen ∈ s.userTasks

/-- What a started server leaves when it is destroyed. -/
lemma StartedInv.leaks (h : s.StartedInv) (hstarted : s.started_ = true)
    (hdid : s.Did .destroy s') : s'.Leaks := by
  have hsame := inTable_destroy hdid
  cases hdid with
  | destroyed hallowed =>
    refine ⟨rfl, ?_⟩
    rcases h.started hstarted with hin | hwaits | hstarting
    · exact Or.inl (hsame.mpr hin)
    · exact Or.inr hwaits
    · exact absurd hallowed.2.1 hstarting

/-- No step takes it away: a `listen` that is executed uses what has been destroyed. -/
lemma leaks_step (h : s.Leaks) (hdid : s.Did a s') : s'.Leaks := by
  have hgone : s.destroyed ≠ false := by
    rw [h.destroyed]
    decide
  cases hdid with
  | stepped _ _ hlistens => exact ⟨h.destroyed, h.left.imp_right (mem_userTasksAfter hlistens)⟩
  | listened _ _ hlives => exact absurd hlives hgone
  | start hlives => exact absurd hlives hgone
  | listenQueued => exact ⟨h.destroyed, h.left.imp_right (List.mem_append_left _)⟩
  | listenRun _ _ hlives => exact absurd hlives hgone
  | destroyed hallowed => exact absurd hallowed.1 hgone

/-- A started server is not torn down cleanly. -/
lemma StartedInv.not_tornDown (h : s.StartedInv) (hallowed : s.allowed .destroy)
    (hstarted : s.started_ = true) : ¬s.TornDown := by
  rintro ⟨s₀, hexec, hdrained, as, s', hrun, hdrains, hsettled⟩
  have hleaks : s'.Leaks := hrun.preserves (h.leaks hstarted (exec_did hallowed hexec))
    fun _ _ _ h hallowed hexec => leaks_step h (exec_did hallowed hexec)
  have hclean := (hdrained as s' hrun hdrains).2 hsettled
  exact hleaks.left.elim (fun hin => hin hclean.acceptor) hsettled.listen

end Server

/-! ## Connections that are shutting down -/

namespace TcpServer

variable {s s' : TcpServer} {i c : ℕ} {w : Work} {a : Action}

/-- `connectDestroyed` switches the channel off in `kConnected` only: the channel of a connection
that is shutting down is never removed. -/
theorem connectDestroyed_disconnecting (hin : (s.loop (s.conn c).loop_).isInLoopThread i = true)
    (hstate : (s.conn c).state_ = .kDisconnecting)
    (hevents : (s.conn c).connChannel_.isNoneEvent = false) :
    s.connectDestroyed i c = .error .assertFailed := by
  have hthread : s.assertInLoopThread (s.conn c).loop_ i = .ok () :=
    (EventLoop.assertInLoopThread_eq_ok _ _).mpr hin
  have hstate' : (s.conn c).state_ ≠ .kConnected := by
    rw [hstate]
    decide
  have hremove : (s.poller (s.conn c).loop_).removeChannel c (s.conn c).connChannel_
      = .error .assertFailed := by
    unfold EPollPoller.removeChannel
    split
    · rfl
    · rename_i ptr state hchannel
      by_cases hptr : ptr = c
      · rw [assertThat_pos hptr, hevents]
        rfl
      · rw [assertThat_neg hptr]
        rfl
  rw [connectDestroyed, hthread, except_ok_bind, if_neg hstate', TcpServer.removeChannel, hremove]
  rfl

/-! ## A server without connections -/

/-- There are no connections, and only code of the program waits. -/
structure Quiet (s : TcpServer) : Prop where
  placed : s.Placed
  created : s.created = 0
  works : ∀ i, ∀ w ∈ s.works i, w = .task .user ∨ w = .userHandler

lemma Quiet.not_exists (h : s.Quiet) : ¬c < s.created := by
  rw [h.created]
  exact Nat.not_lt_zero c

/-- Only code of the program is next. -/
lemma Quiet.next (h : s.Quiet) (hnext : s.Next i w) : w = .task .user ∨ w = .userHandler := by
  refine h.works i w ?_
  rw [works_pop_self hnext]
  exact List.mem_cons_self

lemma mem_works_of_pop (hnext : s.Next i w) {j : ℕ} {w' : Work} (h : w' ∈ (s.pop i).works j) :
    w' ∈ s.works j := by
  by_cases hj : j = i
  · subst hj
    rw [works_pop_self hnext]
    exact List.mem_cons_of_mem w h
  · rwa [works_pop_ne hj] at h

/-- Nothing is reported but code of the program. -/
lemma Quiet.poll {active : List Ready} (h : s.Quiet) (hallowed : s.allowed (.poll i active))
    (hacceptor : .acceptor ∉ active) {j : ℕ}
    (hw : w ∈ (s.setThread i { s.thread i with
      phase := .handlers, todo := active.flatMap Ready.work }).works j) :
    w = .task .user ∨ w = .userHandler := by
  by_cases hj : j = i
  · subst hj
    rw [TcpServer.works, setThread_thread_self, setThread_loop] at hw
    rcases List.mem_append.mp hw with hw | hw
    · obtain ⟨r, hr, hw⟩ := List.mem_flatMap.mp hw
      cases r with
      | conn c read write =>
        have hready := hallowed.2.2.2 _ hr
        unfold ReadyIn at hready
        simp only at hready
        split at hready
        · rename_i ptr events hepoll
          exact absurd (h.placed.kernel _ _ _ _ hepoll).1 h.not_exists
        · exact hready.elim
      | acceptor => exact absurd hr hacceptor
      | other => exact Or.inr (List.mem_singleton.mp hw)
    · exact h.works j w (List.mem_append_right _ hw)
  · rw [TcpServer.works, setThread_thread_ne _ _ _ hj, setThread_loop] at hw
    exact h.works j w hw

/-- A server without connections stays so while nobody connects. -/
lemma Quiet.outcome (h : s.Quiet) (hallowed : s.allowed a)
    (hacceptor : ∀ i active, a = .poll i active → .acceptor ∉ active)
    (houtcome : s.Outcome a s') : s'.Quiet := by
  have hplaced := h.placed.outcome hallowed houtcome
  -- most steps leave what waits as it is
  have hsame : s'.created = s.created → (∀ j, s'.works j = s.works j) → s'.Quiet :=
    fun hcreated hworks => ⟨hplaced, hcreated.trans h.created, fun j => hworks j ▸ h.works j⟩
  cases houtcome with
  | @start i => exact hsame rfl fun j => works_started s i j
  | @swap i hphase =>
    have htodo := (h.placed.threads i).todo_eq_nil (by rw [hphase]; decide)
    exact hsame rfl fun _ => works_swap htodo
  | endTasks => exact hsame rfl fun _ => works_setThread rfl
  | @poll i active => exact ⟨hplaced, h.created, fun j w => h.poll hallowed (hacceptor i active rfl)⟩
  | endHandlers => exact hsame rfl fun _ => works_setThread rfl
  | userReturns => exact hsame rfl fun _ => works_setThread rfl
  | @work i w a s' hnext hworked =>
    have henter : ((s.pop i).enterUser i none).created = 0 ∧
        ∀ j, ∀ w ∈ ((s.pop i).enterUser i none).works j, w = .task .user ∨ w = .userHandler := by
      refine ⟨h.created, fun j w' hw' => ?_⟩
      rw [works_enterUser] at hw'
      exact h.works j w' (mem_works_of_pop hnext hw')
    rcases h.next hnext with rfl | rfl
    · cases hworked with
      | nothing _ hw _ => simp [Task.raw] at hw
      | userTask => exact ⟨hplaced, henter.1, henter.2⟩
    · cases hworked with
      | nothing _ hw _ => simp at hw
      | userHandler => exact ⟨hplaced, henter.1, henter.2⟩
  | acceptQueued hnext => exact absurd (h.next hnext) (by decide)
  | acceptHere hnext => exact absurd (h.next hnext) (by decide)
  | call hholds => exact absurd (h.placed.holds hholds) h.not_exists
  | @queueUser t i =>
    refine ⟨hplaced, h.created, fun j w hw => ?_⟩
    by_cases hj : j = i
    · subst hj
      rw [works_queueInLoop_self] at hw
      rcases List.mem_append.mp hw with hw | hw
      · exact h.works j w hw
      · exact Or.inl (List.mem_singleton.mp hw)
    · rw [works_queueInLoop_ne _ hj] at hw
      exact h.works j w hw
  | @retrieve i c => exact absurd (h.placed.user i c hallowed.1).1 h.not_exists
  | copyPtr => exact hsame rfl fun _ => rfl
  | dropPtr => exact hsame rfl fun _ => rfl

/-- The destructor finds no connections. -/
lemma Quiet.connections (h : s.Quiet) : Server.connections s = [] :=
  List.eq_nil_iff_forall_not_mem.mpr fun _ hc => h.not_exists (Server.mem_connections.mp hc).1

end TcpServer

namespace Server

variable {s s' : Server} {a : Action} {size_ : ℕ}

/-! ## A server that has not been started -/

/-- No connections, no `listen` to come, and no channel of the acceptor. -/
structure Unstarted (size_ : ℕ) (s : Server) : Prop where
  quiet : s.tcp.Quiet
  tabled : s.tcp.Tabled size_
  tasks : .listen ∉ s.userTasks
  starting : s.starting = []
  table : s.poller.channels_ s.acceptor.acceptFd_ = none
  epoll : s.poller.epoll s.acceptor.acceptFd_ = none

/-- The destructor leaves a server without connections as it is. -/
lemma quiet_tornDown (h : s.tcp.Quiet) (hphase : (s.tcp.thread 0).phase = .tasks) :
    s.tornDown.Quiet := by
  refine ⟨placed_tornDown h.placed hphase, (tornDown_frame s).1.trans h.created, fun i w hw => ?_⟩
  -- the destructor finds nothing to queue
  have hworks : s.tornDown.works i = s.tcp.works i := by
    rw [tornDown_eq, here, away, h.connections]
    exact TcpServer.works_setThread rfl
  rw [hworks] at hw
  exact h.works i w hw

/-- Once started, always started. -/
lemma Did.started_of (hdid : s.Did a s') (h : s'.started_ = false) : s.started_ = false := by
  cases hdid with
  | start => cases h
  | _ => exact h

/-- Nobody calls `start()` while the tasks are executed. -/
lemma Did.started_eq (hdid : s.Did a s') (hdrains : Drains a) : s'.started_ = s.started_ := by
  cases hdid with
  | start => exact hdrains.elim
  | _ => rfl

/-- A server that has not been started stays quiet. -/
lemma unstarted_step (h : s.Unstarted size_) (hdid : s.Did a s') (hstarted : s'.started_ = false) :
    s'.Unstarted size_ := by
  have htabled := hdid.tabled h.quiet.placed h.tabled
  have hidle : ∀ t, t ∉ s.starting := by
    rw [h.starting]
    exact fun t => List.not_mem_nil
  cases hdid with
  | @stepped a tcp hallowed hadmits hlistens hlives hexec =>
    refine ⟨?_, htabled, ?_, h.starting, h.table, h.epoll⟩
    · refine h.quiet.outcome hallowed ?_ (TcpServer.exec_outcome hallowed hexec)
      rintro i active rfl hacceptor
      exact hadmits hacceptor h.epoll
    · have hcount := count_userTasksAfter_le (s := s) a
      rw [List.count_eq_zero.mpr h.tasks] at hcount
      exact List.count_eq_zero.mp (Nat.le_zero.mp hcount)
  | listened _ hlistens =>
    refine absurd ?_ h.tasks
    rw [hlistens.userTasks_eq]
    exact List.mem_cons_self
  | start => cases hstarted
  | listenQueued ht => exact absurd ht (hidle _)
  | listenRun ht => exact absurd ht (hidle _)
  | destroyed hallowed htable hepoll =>
    refine ⟨quiet_tornDown h.quiet hallowed.2.2.1, htabled, h.tasks, h.starting, ?_, ?_⟩
    · exact (congrFun htable _).trans h.table
    · exact hepoll _ h.epoll

lemma unstarted_initial {name_ : Bytes} {callback : Bool} {wakeupFd_ timerfd_ : ℕ → ℕ}
    {acceptFd_ : ℕ} :
    (initial size_ name_ callback wakeupFd_ timerfd_ acceptFd_).Unstarted size_ where
  quiet := ⟨TcpServer.placed_initial _ _ _, rfl, fun _ _ hw => absurd hw List.not_mem_nil⟩
  tabled := ⟨rfl, fun _ _ hmem => absurd rfl hmem⟩
  tasks := List.not_mem_nil
  starting := rfl
  table := rfl
  epoll := rfl

/-- A server that has not been started has nothing left to do. -/
lemma Unstarted.settled (h : s.Unstarted size_) : s.Settled := ⟨h.quiet.works, h.tasks⟩

/-- A server that has not been started leaves nothing behind. -/
lemma Unstarted.clean (h : s.Unstarted size_) : s.Clean where
  down c hc := absurd hc h.quiet.not_exists
  acceptor := h.table
  connections i fd := by
    by_contra hmem
    obtain ⟨c, hc, -⟩ := h.tabled.table i fd hmem
    exact h.quiet.not_exists hc

/-- Whatever is left to do returns. -/
lemma Unstarted.returns (h : s.Unstarted size_) (hallowed : s.allowed a) (hdrains : Drains a) :
    ∃ s', s.exec a = .ok s' := by
  cases a with
  | tcp a =>
    obtain ⟨hallowed, -, -⟩ := hallowed
    have hlistens : ¬s.Listens a := by
      intro hlistens
      refine h.tasks ?_
      rw [hlistens.userTasks_eq]
      exact List.mem_cons_self
    have hnext : ∀ {i w}, s.tcp.Next i w → w = .task .user ∨ w = .userHandler := h.quiet.next
    -- what is left is code of the program, which does not use the server
    have hreturns : usesServer a = false → (∃ tcp, s.tcp.exec a = .ok tcp) →
        ∃ s', s.step a = .ok s' := by
      rintro huses ⟨tcp, hexec⟩
      rw [step, if_neg hlistens, huses, Bool.and_false, if_neg Bool.false_ne_true, hexec]
      exact ⟨_, rfl⟩
    cases a with
    | start i => exact hreturns rfl ⟨_, h.quiet.placed.start_eq hallowed.2⟩
    | task i t =>
      rcases hnext hallowed with heq | heq
      · obtain rfl := Work.task.inj heq
        exact hreturns rfl ⟨_, rfl⟩
      · cases heq
    | poll i active =>
      obtain rfl : active = [] := hdrains
      have hall : ∀ r ∈ ([] : List TcpServer.Ready), s.tcp.Registered i r :=
        fun r hr => absurd hr List.not_mem_nil
      refine hreturns rfl ?_
      show ∃ tcp, s.tcp.poll i [] = .ok tcp
      rw [TcpServer.poll, assertThat_pos hall, except_ok_bind]
      exact ⟨_, rfl⟩
    | acceptorRead i connfd => exact absurd (hnext hallowed.1) (by decide)
    | handleRead i c data => exact absurd (hnext hallowed.1) (by simp)
    | handleWrite i c written => exact absurd (hnext hallowed.1) (by simp)
    | closeCallback i c => exact absurd (hnext hallowed) (by simp)
    | removeChannel i c => exact absurd (hnext hallowed) (by simp)
    | swap | endTasks | userHandler | endHandlers | userReturns => exact hreturns rfl ⟨_, rfl⟩
    | _ => exact hdrains.elim
  | _ => exact hdrains.elim

/-- Behind the destructor of a server that has not been started, nothing is left at once. -/
lemma Unstarted.tornDown (h : s.Unstarted size_) (hallowed : s.allowed .destroy)
    (hstarted : s.started_ = false) : s.TornDown := by
  have hin : (s.tcp.loop 0).isInLoopThread (0 : ℕ) = true := by
    refine h.quiet.placed.inLoop ?_
    rw [hallowed.2.2.1]
    decide
  have hthread : s.tcp.assertInLoopThread 0 0 = .ok () :=
    (EventLoop.assertInLoopThread_eq_ok _ _).mpr hin
  have hreturns : ∃ s₀, s.exec .destroy = .ok s₀ := by
    show ∃ s₀, s.destroy = .ok s₀
    rw [destroy, hthread]
    exact ⟨_, rfl⟩
  obtain ⟨s₀, hexec⟩ := hreturns
  have hdid := exec_did hallowed hexec
  have hstarted₀ : s₀.started_ = false := by
    cases hdid
    exact hstarted
  have h₀ : s₀.Unstarted size_ := unstarted_step h hdid hstarted₀
  refine ⟨s₀, hexec, fun as s' hrun hdrains => ?_, [], s₀, .nil s₀,
    fun _ ha => absurd ha List.not_mem_nil, h₀.settled⟩
  have hinv : s'.started_ = false ∧ s'.Unstarted size_ := by
    refine hrun.invariant (I := fun s => s.started_ = false ∧ s.Unstarted size_)
      (Machine.AllSteps.of_mem hdrains) ⟨hstarted₀, h₀⟩ ?_
    intro s a s' h hdrains hallowed hexec
    have hdid := exec_did hallowed hexec
    have hstarted : s'.started_ = false := hdid.started_eq hdrains ▸ h.1
    exact ⟨hstarted, unstarted_step h.2 hdid hstarted⟩
  refine ⟨fun a f hdrains hallowed hfault => ?_, fun _ => hinv.2.clean⟩
  obtain ⟨s'', hok⟩ := hinv.2.returns hallowed hdrains
  rw [hok] at hfault
  cases hfault

/-! ## Every run -/

variable {name_ : Bytes} {callback : Bool} {wakeupFd_ timerfd_ : ℕ → ℕ} {acceptFd_ : ℕ}
  {as : List Action}

lemma startedInv_initial :
    (initial size_ name_ callback wakeupFd_ timerfd_ acceptFd_).StartedInv where
  listening h := nomatch h
  started h := nomatch h

/-- The invariant holds in every state of a run. -/
lemma startedInv_of_run
    (hrun : machine.Run (initial size_ name_ callback wakeupFd_ timerfd_ acceptFd_) as s) :
    s.StartedInv :=
  hrun.preserves startedInv_initial
    fun _ _ _ h hallowed hexec => startedInv_step h (exec_did hallowed hexec)

/-- **Teardown.** In every reachable state in which a task may destroy the server, the destructor
and the tasks that are queued leave nothing behind iff the server has not been started. -/
theorem tornDown_iff
    (hrun : machine.Run (initial size_ name_ callback wakeupFd_ timerfd_ acceptFd_) as s)
    (hallowed : s.allowed .destroy) : s.TornDown ↔ s.started_ = false := by
  have hunstarted : s.started_ = false → s.Unstarted size_ :=
    hrun.preserves (I := fun s => s.started_ = false → s.Unstarted size_)
      (fun _ => unstarted_initial) fun _ _ _ h hallowed hexec hstarted =>
        have hdid := exec_did hallowed hexec
        unstarted_step (h (hdid.started_of hstarted)) hdid hstarted
  constructor
  · intro htorn
    by_contra hstarted
    exact (startedInv_of_run hrun).not_tornDown hallowed (Bool.not_eq_false _ ▸ hstarted) htorn
  · exact fun hstarted => (hunstarted hstarted).tornDown hallowed hstarted

/-- The program queues a task and enters the loop; the task destroys the server. -/
def destroyUnstarted : List Action :=
  [.tcp (.queueUser (.other 0) 0), .tcp (.start 0), .tcp (.swap 0), .tcp (.task 0 .user)]

/-- A task of the loop destroys a server that has never been started. -/
theorem tornDown_destroyUnstarted :
    ∃ s, machine.Run single destroyUnstarted s ∧ s.allowed .destroy ∧ s.TornDown := by
  obtain ⟨s, hrun, hs⟩ := Machine.Run.of_replay_map machine single destroyUnstarted
    (fun s => decide (machine.allowed s .destroy ∧ s.started_ = false)) (by decide +kernel)
  obtain ⟨hallowed, hstarted⟩ := of_decide_eq_true hs
  exact ⟨s, hrun, hallowed, (tornDown_iff hrun hallowed).mpr hstarted⟩

/-- A client is connected when a task destroys the server. -/
def destroyConnected : List Action :=
  acceptClient ++ [.tcp (.userReturns 0), .tcp (.acceptorRead 0 none), .tcp (.endHandlers 0),
    .tcp (.queueUser (.other 0) 0), .tcp (.swap 0), .tcp (.task 0 .user)]

/-- The acceptor's channel stays in the poller. -/
theorem not_tornDown :
    ¬∀ (size_ : ℕ) (name_ : Bytes) (callback : Bool) (wakeupFd_ timerfd_ : ℕ → ℕ) (acceptFd_ : ℕ)
      (as : List Action) (s : Server),
      machine.Run (initial size_ name_ callback wakeupFd_ timerfd_ acceptFd_) as s →
        s.allowed .destroy → s.TornDown := by
  intro h
  obtain ⟨s, hrun, hs⟩ := Machine.Run.of_replay_map machine single destroyConnected
    (fun s => decide (machine.allowed s .destroy ∧ s.started_ = true)) (by decide +kernel)
  obtain ⟨hallowed, hstarted⟩ := of_decide_eq_true hs
  exact (startedInv_of_run hrun).not_tornDown hallowed hstarted
    (h 0 [] false (fun _ => 3) (fun _ => 4) 5 destroyConnected s hrun hallowed)

end Server
end Miniduo
