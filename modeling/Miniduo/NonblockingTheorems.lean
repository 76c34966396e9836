import Miniduo.ServerTheorems

/-!
# Who may block a loop

The loops open their own descriptors, and the acceptor opens its socket, in non-blocking mode.
`accept` is called without flags, so the descriptor of every connection is in blocking mode, and
`connectEstablished` registers it like that.
-/

namespace Miniduo

/-! ## The table of a poller -/

namespace EPollPoller

/-- No other descriptor has got into the table. -/
def Tables {κ : Type} (p : EPollPoller κ) (fd : ℕ) (p' : EPollPoller κ) : Prop :=
  ∀ fd', p'.channels_ fd' ≠ none → p.channels_ fd' ≠ none ∨ fd' = fd

section
variable {κ : Type} {p p' p'' : EPollPoller κ} {ptr : κ} {ch : Channel} {fd : ℕ}

lemma Tables.refl (p : EPollPoller κ) (fd : ℕ) : p.Tables fd p := fun _ h => Or.inl h

lemma Tables.trans (h : p.Tables fd p') (h' : p'.Tables fd p'') : p.Tables fd p'' := by
  intro fd' hfd'
  rcases h' fd' hfd' with hfd' | rfl
  · exact h fd' hfd'
  · exact Or.inr rfl

lemma update_tables (operation : EpollOp) : p.Tables fd (p.update operation ptr ch) := by
  exact fun fd' hfd' => Or.inl hfd'

lemma setState_tables (state : ChannelState) : p.Tables fd (p.setState fd ptr state) := by
  intro fd' hfd'
  by_cases heq : fd' = fd
  · exact Or.inr heq
  · simp only [setState, Function.update_of_ne heq] at hfd'
    exact Or.inl hfd'

variable [DecidableEq κ]

/-- `updateChannel` puts no other descriptor into the table. -/
lemma updateChannel_tables (h : p.updateChannel ptr ch = .ok p') : p.Tables ch.fd_ p' := by
  unfold updateChannel at h
  split at h
  · cases h
  · obtain ⟨-, -, h⟩ := except_bind_eq_ok.mp h
    split at h <;> split at h <;> rw [← Except.ok.inj h]
    · exact (setState_tables _).trans (update_tables _)
    · exact .refl p _
    · exact update_tables _
    · exact (setState_tables _).trans (update_tables _)

/-- `updateChannel` is called for a channel in the table, and leaves it there. -/
lemma updateChannel_mem (h : p.updateChannel ptr ch = .ok p') : p'.channels_ ch.fd_ ≠ none := by
  have hupdate : ∀ (q : EPollPoller κ) (operation : EpollOp),
      (q.update operation ptr ch).channels_ = q.channels_ := fun _ _ => rfl
  have hset : ∀ state, (p.setState ch.fd_ ptr state).channels_ ch.fd_ ≠ none := by
    intro state
    simp [setState]
  unfold updateChannel at h
  split at h
  · cases h
  · rename_i ptr' state hchannel
    obtain ⟨-, -, h⟩ := except_bind_eq_ok.mp h
    have hmem : p.channels_ ch.fd_ ≠ none := by simp [hchannel]
    split at h <;> split at h <;> rw [← Except.ok.inj h]
    · rw [hupdate]
      exact hset _
    · exact hmem
    · rw [hupdate]
      exact hmem
    · rw [hupdate]
      exact hset _

lemma addChannel_tables (h : p.addChannel ptr ch = .ok p') : p.Tables ch.fd_ p' := by
  obtain ⟨-, -, h⟩ := except_bind_eq_ok.mp h
  exact (setState_tables _).trans (updateChannel_tables h)

lemma removeChannel_tables (h : p.removeChannel ptr ch = .ok p') : p.Tables ch.fd_ p' := by
  unfold removeChannel at h
  split at h
  · cases h
  · obtain ⟨-, -, h⟩ := except_bind_eq_ok.mp h
    obtain ⟨-, -, h⟩ := except_bind_eq_ok.mp h
    rw [← Except.ok.inj h]
    intro fd' hfd'
    by_cases heq : fd' = ch.fd_
    · exact Or.inr heq
    · simp only [Function.update_of_ne heq] at hfd'
      split at hfd'
      · exact update_tables _ fd' hfd'
      · exact Or.inl hfd'

end

end EPollPoller

/-- An event of a connection puts no other descriptor into the table than its own. -/
lemma ConnEvent.Polled.tables {e : ConnEvent} {p p' : EPollPoller ConnId} {c : ConnId}
    {ch ch' : Channel} (h : e.Polled p c ch ch' p') (hfd : ch'.fd_ = ch.fd_) :
    p.Tables ch.fd_ p' := by
  have hsame : ∀ {q : EPollPoller ConnId}, q = p → p.Tables ch.fd_ q := fun hq => hq ▸ .refl p _
  have hupdate : ∀ {p₁ q : EPollPoller ConnId}, p₁.updateChannel c ch' = .ok q →
      p₁.Tables ch.fd_ q := fun h => hfd ▸ EPollPoller.updateChannel_tables h
  cases e with
  | establish i =>
    obtain ⟨p₁, hadd, h⟩ := h
    exact (EPollPoller.addChannel_tables hadd).trans (hupdate h)
  | close i => exact hupdate h
  | accept t msg => exact h.elim hupdate fun h => hsame h.2
  | write n => exact h.elim hupdate fun h => hsame h.2
  | _ => exact hsame h.2

namespace TcpServer

/-! ## The tables of the loops -/

/-- The tables have the descriptors of connections only. -/
structure Tabled (size_ : ℕ) (s : TcpServer) : Prop where
  size : s.size_ = size_
  table : ∀ i fd, (s.poller i).channels_ fd ≠ none →
    ∃ c < s.created, (s.conn c).connChannel_.fd_ = fd

variable {size_ : ℕ} {s s' : TcpServer} {i c : ℕ} {w : Work}

/-- A connection that is touched keeps its descriptor. -/
lemma Tabled.touch (h : s.Tabled size_) (hc : c < s.created) {conn : TcpConnection}
    {p : EPollPoller ConnId} (hfd : conn.connChannel_.fd_ = (s.conn c).connChannel_.fd_)
    (htables : (s.poller (s.conn c).loop_).Tables (s.conn c).connChannel_.fd_ p) :
    (s.touch c conn p).Tabled size_ := by
  refine ⟨h.size, fun j fd hmem => ?_⟩
  have hconn : ∀ c', ((s.touch c conn p).conn c').connChannel_.fd_
      = (s.conn c').connChannel_.fd_ := by
    intro c'
    by_cases heq : c' = c
    · rw [heq, touch_conn_self, hfd]
    · rw [touch_conn_ne _ _ _ _ heq]
  simp only [hconn]
  by_cases hj : j = (s.conn c).loop_
  · subst hj
    simp only [TcpServer.touch, Function.update_self] at hmem
    rcases htables fd hmem with hold | rfl
    · exact h.table _ fd hold
    · exact ⟨c, hc, rfl⟩
  · simp only [TcpServer.touch, Function.update_of_ne hj] at hmem
    exact h.table j fd hmem

/-- An event of a connection leaves the tables with descriptors of connections. -/
lemma Tabled.effect (h : s.Tabled size_) {e : ConnEvent} (hc : c < s.created)
    (he : s.Effect c e s') : s'.Tabled size_ := by
  obtain ⟨conn, p, hstep, hpolled, rfl⟩ := he
  exact h.touch hc hstep.fd_eq (hpolled.tables hstep.fd_eq)

lemma Tabled.channelRemoved (h : s.Tabled size_) (hc : c < s.created)
    (hgone : s.channelRemoved s' c) : s'.Tabled size_ := by
  obtain ⟨p, hremove, rfl⟩ := hgone
  exact h.touch hc rfl (EPollPoller.removeChannel_tables hremove)

lemma Tabled.callsDown {rest : Work} (h : s.Tabled size_) (hc : c < s.created)
    (hdown : s.callsDown s' i c rest) : s'.Tabled size_ := by
  obtain ⟨s₁, heffect, rfl⟩ := hdown
  have h₁ := h.effect hc heffect
  exact ⟨h₁.size, h₁.table⟩

lemma Tabled.removed (h : s.Tabled size_) (hc : c < s.created) (hr : s.removed s' c) :
    s'.Tabled size_ := by
  obtain ⟨s₁, heffect, -, rfl⟩ := hr
  have h₁ := h.effect hc heffect
  exact ⟨h₁.size, h₁.table⟩

/-- A new connection is one more that may be in a table. -/
lemma Tabled.withConnection (h : s.Tabled size_) (fd : ℕ) :
    (s.withConnection fd).Tabled size_ := by
  refine ⟨h.size, fun j fd' hmem => ?_⟩
  obtain ⟨c, hc, hfd⟩ := h.table j fd' hmem
  refine ⟨c, Nat.lt_succ_of_lt hc, ?_⟩
  simp only [TcpServer.withConnection, Function.update_of_ne (Nat.ne_of_lt hc)]
  exact hfd

/-- The work of a loop leaves the tables with descriptors of connections. -/
lemma Tabled.worked {a : Action} (h : s.Tabled size_) (hw : s.WorkAt i w)
    (hworked : s.Worked i w a s') : s'.Tabled size_ := by
  have heffect : ∀ {s₁ : TcpServer} {e : ConnEvent} {c : ConnId}, c < s.created →
      s.Effect c e s₁ → s₁.Tabled size_ := fun hc he => h.effect hc he
  cases hworked with
  | nothing _ _ _ => exact h
  | established he =>
    have h₁ := heffect hw.1 he
    exact ⟨h₁.size, h₁.table⟩
  | destroyedDown hdown => exact h.callsDown hw.1 hdown
  | destroyed hgone => exact h.channelRemoved hw.1 hgone
  | removedTask hremoved => exact h.removed hw.1 hremoved
  | removedHere hremoved => exact h.removed hw.1 hremoved
  | removedQueued c => exact ⟨h.size, h.table⟩
  | channelRemoved hgone => exact h.channelRemoved hw.1 hgone
  | writeComplete c => exact ⟨h.size, h.table⟩
  | accepted he => exact heffect hw.1.1 he
  | shutdown he => exact heffect hw.1 he
  | closed hdown => exact h.callsDown hw.1 hdown
  | again c => exact ⟨h.size, h.table⟩
  | peerClosed hdown => exact h.callsDown hw.1 hdown
  | read he =>
    have h₁ := heffect hw.1 he
    exact ⟨h₁.size, h₁.table⟩
  | written he => exact heffect hw.1 he
  | writtenAll he =>
    have h₁ := heffect hw.1 he
    exact ⟨h₁.size, h₁.table⟩
  | userTask => exact ⟨h.size, h.table⟩
  | userHandler => exact ⟨h.size, h.table⟩

lemma Tabled.called {a : Action} {t : Thread} (h : s.Tabled size_) (hc : c < s.created)
    (hcalled : s.Called t c a s') : s'.Tabled size_ := by
  cases hcalled with
  | sendQueued hout hlength hsend =>
    have h₁ := h.effect hc hsend
    exact ⟨h₁.size, h₁.table⟩
  | sendIgnored hin hsend => exact h.effect hc hsend
  | sendAccepted hin hsend haccept =>
    exact (h.effect hc hsend).effect (by rw [hsend.created_eq]; exact hc) haccept
  | shutdownIgnored _ => exact h
  | shutdownRun hin hshutdown => exact h.effect hc hshutdown
  | _ => exact ⟨h.size, h.table⟩

/-- Every action leaves the tables with descriptors of connections. -/
lemma Tabled.outcome {a : Action} (h : s.Tabled size_) (hplaced : s.Placed)
    (hallowed : s.allowed a) (houtcome : s.Outcome a s') : s'.Tabled size_ := by
  cases houtcome with
  | @work i w a s' hnext hworked =>
    have hpop : (s.pop i).Tabled size_ := ⟨h.size, h.table⟩
    exact hpop.worked (hplaced.workAt hnext : s.WorkAt i w) hworked
  | @acceptQueued i fd hnext =>
    have h₁ := h.withConnection fd
    exact ⟨h₁.size, h₁.table⟩
  | @acceptHere i fd s₁ hnext hin heffect =>
    have h₁ := (h.withConnection fd).effect (Nat.lt_succ_self s.created) heffect
    exact ⟨h₁.size, h₁.table⟩
  | call hholds hcalled => exact h.called (hplaced.holds hholds) hcalled
  | @retrieve i c len s₁ hretrieve => exact h.effect (hplaced.user i c hallowed.1).1 hretrieve
  | _ => exact ⟨h.size, h.table⟩

/-- The descriptors of the connections: those of before, and one that has been accepted. -/
lemma Outcome.fds {a : Action} (h : s.Outcome a s') {c : ConnId} (hc : c < s'.created) :
    c < s.created ∧ (s'.conn c).connChannel_.fd_ = (s.conn c).connChannel_.fd_ ∨
      ∃ i, a = .acceptorRead i (some (s'.conn c).connChannel_.fd_) := by
  have hsame : ∀ {s₁ : TcpServer}, s₁.Stays s' (s.Causes a) →
      (s'.conn c).connChannel_.fd_ = (s₁.conn c).connChannel_.fd_ := by
    rintro s₁ ⟨-, hmoves⟩
    refine (hmoves c).invariant
      (Q := fun conn => conn.connChannel_.fd_ = (s₁.conn c).connChannel_.fd_) rfl ?_
    intro conn e conn' hQ _ hstep
    rw [hstep.fd_eq, hQ]
  rcases h.stays with hstays | ⟨i, fd, rfl, hstays⟩
  · refine Or.inl ⟨?_, hsame hstays⟩
    rwa [show s'.created = s.created from congrArg Prod.fst hstays.1] at hc
  · rw [show s'.created = s.created + 1 from congrArg Prod.fst hstays.1] at hc
    have hfd := hsame hstays
    rcases Nat.lt_succ_iff_lt_or_eq.mp hc with hold | rfl
    · simp only [withConnection, Function.update_of_ne (Nat.ne_of_lt hold)] at hfd
      exact Or.inl ⟨hold, hfd⟩
    · simp only [withConnection, Function.update_self] at hfd
      exact Or.inr ⟨i, by rw [hfd]; rfl⟩

/-- Only an `accept` that returns a descriptor makes a connection. -/
lemma Outcome.created_eq {a : Action} (h : s.Outcome a s')
    (ha : ∀ i fd, a ≠ .acceptorRead i (some fd)) : s'.created = s.created := by
  rcases h.stays with ⟨hcounters, -⟩ | ⟨i, fd, heq, -⟩
  · exact congrArg Prod.fst hcounters
  · exact absurd heq (ha i fd)

end TcpServer

/-! ## What the loops have registered -/

namespace Server

/-- The descriptor has a channel in the poller of the loop: one of the loop's own, the acceptor's or
that of a connection. -/
def Registered (s : Server) (i fd : ℕ) : Prop :=
  fd = s.wakeupFd_ i ∨ fd = s.timerfd_ i ∨ (i = 0 ∧ s.poller.channels_ fd ≠ none) ∨
    (s.tcp.poller i).channels_ fd ≠ none

/-- The descriptor has been opened in non-blocking mode. -/
def Nonblocking (s : Server) (fd : ℕ) : Prop :=
  ∃ flags, s.flags fd = some flags ∧ flags.nonblock = true

/-- No system call on a registered descriptor blocks a loop. -/
def OnlyPollBlocks (s : Server) : Prop :=
  ∀ i ≤ s.tcp.size_, ∀ fd, s.Registered i fd → s.Nonblocking fd

/-- No connection is accepted. -/
def NoneAccepted (_ : Server) (a : Action) : Prop := ∀ i fd, a ≠ .tcp (.acceptorRead i (some fd))

instance (s : Server) : ∀ a, Decidable (s.NoneAccepted a)
  | .tcp (.acceptorRead i (some fd)) => isFalse fun h => h i fd rfl
  | .tcp (.acceptorRead _ none) | .tcp (.poll _ _) | .tcp (.start _) | .tcp (.swap _)
  | .tcp (.task _ _) | .tcp (.endTasks _) | .tcp (.handleRead _ _ _) | .tcp (.handleWrite _ _ _)
  | .tcp (.userHandler _) | .tcp (.closeCallback _ _) | .tcp (.removeChannel _ _)
  | .tcp (.endHandlers _) | .tcp (.userReturns _) | .tcp (.retrieve _ _ _) | .tcp (.send _ _ _)
  | .tcp (.shutdown _ _) | .tcp (.close _ _) | .tcp (.closeInNextLoop _ _)
  | .tcp (.queueUser _ _) | .tcp (.copyPtr _ _) | .tcp (.dropPtr _) | .start _ | .runListen _
  | .destroy => isTrue fun _ _ h => nomatch h

variable {s s' : Server} {size_ : ℕ} {a : Action}

lemma Did.tabled (hdid : s.Did a s') (hplaced : s.tcp.Placed) (h : s.tcp.Tabled size_) :
    s'.tcp.Tabled size_ := by
  cases hdid with
  | stepped hallowed _ _ _ hexec =>
    exact h.outcome hplaced hallowed (TcpServer.exec_outcome hallowed hexec)
  | destroyed =>
    obtain ⟨hcreated, hconn, hpoller, hsize⟩ := tornDown_frame s
    refine ⟨hsize.trans h.size, ?_⟩
    simp only [hcreated, hconn, hpoller]
    exact h.table
  | _ => exact ⟨h.size, h.table⟩

lemma Did.acceptFd_eq (hdid : s.Did a s') : s'.acceptor.acceptFd_ = s.acceptor.acceptFd_ := by
  cases hdid with
  | listened => exact Channel.enableReading_fd _ _
  | listenRun => exact Channel.enableReading_fd _ _
  | _ => rfl

lemma Did.loopFds_eq (hdid : s.Did a s') :
    s'.wakeupFd_ = s.wakeupFd_ ∧ s'.timerfd_ = s.timerfd_ := by
  cases hdid <;> exact ⟨rfl, rfl⟩

/-- Only `accept` opens a descriptor, and without flags. -/
lemma flagsAfter_eq (s : Server) (a : TcpServer.Action) : s.flagsAfter a = s.flags ∨
    ∃ i fd, a = .acceptorRead i (some fd) ∧
      s.flagsAfter a = Function.update s.flags fd (some acceptSock) := by
  cases a with
  | acceptorRead i connfd =>
    cases connfd with
    | none => exact Or.inl rfl
    | some fd => exact Or.inr ⟨i, fd, rfl, rfl⟩
  | _ => exact Or.inl rfl

/-- `accept` returns none of the descriptors that the loops and the acceptor have opened. -/
lemma Did.nonblocking (hdid : s.Did a s') {fd : ℕ} (h : s.Nonblocking fd)
    (hfd : fd = s.acceptor.acceptFd_ ∨ ∃ i ≤ s.tcp.size_, fd = s.wakeupFd_ i ∨ fd = s.timerfd_ i) :
    s'.Nonblocking fd := by
  cases hdid with
  | @stepped a tcp hallowed hadmits hlistens hlives hexec =>
    rcases flagsAfter_eq s a with heq | ⟨i, fd', rfl, heq⟩
    · unfold Nonblocking
      rw [show (s.stepped a tcp).flags = s.flags from heq]
      exact h
    · obtain ⟨hacceptor, hloops⟩ := hadmits
      have hne : fd ≠ fd' := by
        rintro rfl
        rcases hfd with hfd | ⟨j, hj, hfd | hfd⟩
        · exact hacceptor hfd
        · exact (hloops j hj).1 hfd
        · exact (hloops j hj).2 hfd
      unfold Nonblocking
      rw [show (s.stepped (.acceptorRead i (some fd')) tcp).flags
        = Function.update s.flags fd' (some acceptSock) from heq, Function.update_of_ne hne]
      exact h
  | _ => exact h

/-- How the descriptors have been opened. -/
structure Opened (size_ : ℕ) (s : Server) : Prop where
  placed : s.tcp.Placed
  tabled : s.tcp.Tabled size_
  loops : ∀ i ≤ size_, s.Nonblocking (s.wakeupFd_ i) ∧ s.Nonblocking (s.timerfd_ i)
  acceptor : s.Nonblocking s.acceptor.acceptFd_
  table : ∀ fd, s.poller.channels_ fd ≠ none → fd = s.acceptor.acceptFd_
  accepted : ∀ c < s.tcp.created, s.flags (s.tcp.conn c).connChannel_.fd_ = some acceptSock

/-- Only the descriptor of the acceptor gets into its table. -/
lemma Adds.tables {p p' : EPollPoller Unit} {ch : Channel} (h : Adds p ch p') :
    p.Tables ch.fd_ p' := by
  obtain ⟨p₁, hadd, hupdate⟩ := h
  have hfd := EPollPoller.updateChannel_tables hupdate
  rw [Channel.enableReading_fd] at hfd
  exact (EPollPoller.addChannel_tables hadd).trans hfd

/-- Only the acceptor's channel gets into its part of the table. -/
lemma Opened.table_step (h : s.Opened size_) (hdid : s.Did a s') :
    ∀ fd, s'.poller.channels_ fd ≠ none → fd = s.acceptor.acceptFd_ := by
  intro fd hmem
  cases hdid with
  | listened _ _ _ hadds => exact (hadds.tables fd hmem).elim (h.table fd) id
  | listenRun _ _ _ hadds => exact (hadds.tables fd hmem).elim (h.table fd) id
  | destroyed _ htable _ =>
    rw [show _ = s.poller.channels_ from htable] at hmem
    exact h.table fd hmem
  | _ => exact h.table fd hmem

/-- Every connection has a descriptor that `accept` has returned. -/
lemma Opened.accepted_step (h : s.Opened size_) (hdid : s.Did a s') :
    ∀ c < s'.tcp.created, s'.flags (s'.tcp.conn c).connChannel_.fd_ = some acceptSock := by
  intro c hc
  cases hdid with
  | @stepped a tcp hallowed hadmits hlistens hlives hexec =>
    have hfds := (TcpServer.exec_outcome hallowed hexec).fds hc
    show s.flagsAfter a (tcp.conn c).connChannel_.fd_ = some acceptSock
    rcases hfds with ⟨hold, hfd⟩ | ⟨i, rfl⟩
    · rw [hfd]
      rcases flagsAfter_eq s a with heq | ⟨i, fd, -, heq⟩
      · rw [heq]
        exact h.accepted c hold
      · -- the number of a closed descriptor may come again
        rw [heq, Function.update_apply]
        split
        · rfl
        · exact h.accepted c hold
    · exact Function.update_self ..
  | destroyed =>
    obtain ⟨hcreated, hconn, -, -⟩ := tornDown_frame s
    simp only [hcreated, hconn] at hc ⊢
    exact h.accepted c hc
  | _ => exact h.accepted c hc

lemma opened_step (h : s.Opened size_) (hdid : s.Did a s') : s'.Opened size_ := by
  obtain ⟨hwakeup, htimer⟩ := hdid.loopFds_eq
  refine ⟨hdid.placed h.placed, hdid.tabled h.placed h.tabled, fun i hi => ?_, ?_, ?_,
    h.accepted_step hdid⟩
  · rw [hwakeup, htimer]
    have hi' : i ≤ s.tcp.size_ := by rwa [h.tabled.size]
    exact ⟨hdid.nonblocking (h.loops i hi).1 (Or.inr ⟨i, hi', Or.inl rfl⟩),
      hdid.nonblocking (h.loops i hi).2 (Or.inr ⟨i, hi', Or.inr rfl⟩)⟩
  · rw [hdid.acceptFd_eq]
    exact hdid.nonblocking h.acceptor (Or.inl rfl)
  · rw [hdid.acceptFd_eq]
    exact h.table_step hdid

/-! ## Every run -/

variable {name_ : Bytes} {callback : Bool} {wakeupFd_ timerfd_ : ℕ → ℕ} {acceptFd_ : ℕ}
  {as : List Action}

/-- Every descriptor that the constructors of the loops have opened is in non-blocking mode. -/
lemma openLoops_nonblock {n fd : ℕ} (h : ∃ i < n, fd = wakeupFd_ i ∨ fd = timerfd_ i) :
    ∃ flags, openLoops wakeupFd_ timerfd_ n fd = some flags ∧ flags.nonblock = true := by
  induction n with
  | zero =>
    obtain ⟨i, hi, -⟩ := h
    exact absurd hi (Nat.not_lt_zero i)
  | succ n ih =>
    simp only [openLoops, Function.update_apply]
    split_ifs with htimer hwakeup
    · exact ⟨_, rfl, rfl⟩
    · exact ⟨_, rfl, rfl⟩
    · -- neither is of the last loop
      obtain ⟨i, hi, hfd⟩ := h
      refine ih ⟨i, lt_of_le_of_ne (Nat.lt_succ_iff.mp hi) ?_, hfd⟩
      rintro rfl
      exact hfd.elim hwakeup htimer

/-- The loops and the acceptor have opened theirs in non-blocking mode. -/
lemma opened_initial :
    (initial size_ name_ callback wakeupFd_ timerfd_ acceptFd_).Opened size_ := by
  have hopen : ∀ fd, (fd = acceptFd_ ∨ ∃ i < size_ + 1, fd = wakeupFd_ i ∨ fd = timerfd_ i) →
      (initial size_ name_ callback wakeupFd_ timerfd_ acceptFd_).Nonblocking fd := by
    intro fd hfd
    simp only [Nonblocking, initial, Function.update_apply]
    split_ifs with heq
    · exact ⟨_, rfl, rfl⟩
    · exact openLoops_nonblock (hfd.resolve_left heq)
  constructor
  · exact TcpServer.placed_initial _ _ _
  · exact ⟨rfl, fun i fd hmem => absurd rfl hmem⟩
  · exact fun i hi => ⟨hopen _ (Or.inr ⟨i, Nat.lt_succ_of_le hi, Or.inl rfl⟩),
      hopen _ (Or.inr ⟨i, Nat.lt_succ_of_le hi, Or.inr rfl⟩)⟩
  · exact hopen _ (Or.inl rfl)
  · exact fun fd hmem => absurd rfl hmem
  · exact fun c hc => absurd hc (Nat.not_lt_zero c)

/-- Only the connections are in blocking mode. -/
lemma Opened.blocks_iff (h : s.Opened size_) :
    s.OnlyPollBlocks ↔ ∀ i ≤ s.tcp.size_, ∀ fd, (s.tcp.poller i).channels_ fd = none := by
  constructor
  · intro hblocks i hi fd
    by_contra hmem
    obtain ⟨c, hc, rfl⟩ := h.tabled.table i fd hmem
    obtain ⟨flags, hflags, hnonblock⟩ := hblocks i hi _ (Or.inr (Or.inr (Or.inr hmem)))
    rw [h.accepted c hc, Option.some.injEq] at hflags
    rw [← hflags] at hnonblock
    cases hnonblock
  · rintro hnone i hi fd (rfl | rfl | ⟨-, hmem⟩ | hmem)
    · exact (h.loops i (h.tabled.size ▸ hi)).1
    · exact (h.loops i (h.tabled.size ▸ hi)).2
    · rw [h.table fd hmem]
      exact h.acceptor
    · exact absurd (hnone i hi fd) hmem

/-- Where no connection is accepted, none is made. -/
lemma Did.created_eq (hdid : s.Did a s') (hnone : s.NoneAccepted a) :
    s'.tcp.created = s.tcp.created := by
  cases hdid with
  | stepped hallowed _ _ _ hexec =>
    exact (TcpServer.exec_outcome hallowed hexec).created_eq fun i fd ha => hnone i fd (ha ▸ rfl)
  | destroyed => exact (tornDown_frame s).1
  | _ => rfl

/-- **Only `poll` may block**: in a reachable state all registered descriptors are in non-blocking
mode iff no connection has a channel in a poller, and so in every state of a run in which no
connection is accepted. -/
theorem onlyPollBlocks_iff
    (hrun : machine.Run (initial size_ name_ callback wakeupFd_ timerfd_ acceptFd_) as s) :
    (s.OnlyPollBlocks ↔ ∀ i ≤ s.tcp.size_, ∀ fd, (s.tcp.poller i).channels_ fd = none) ∧
      (machine.AllSteps NoneAccepted (initial size_ name_ callback wakeupFd_ timerfd_ acceptFd_) as →
        s.OnlyPollBlocks) := by
  have hopened : s.Opened size_ := hrun.preserves opened_initial
    fun _ _ _ h hallowed hexec => opened_step h (exec_did hallowed hexec)
  refine ⟨hopened.blocks_iff, fun hnone => hopened.blocks_iff.mpr ?_⟩
  have hcreated : s.tcp.created = 0 := hrun.invariant (I := fun s => s.tcp.created = 0) hnone rfl
    fun _ _ _ h hnone hallowed hexec => ((exec_did hallowed hexec).created_eq hnone).trans h
  intro i hi fd
  by_contra hmem
  obtain ⟨c, hc, -⟩ := hopened.tabled.table i fd hmem
  rw [hcreated] at hc
  exact absurd hc (Nat.not_lt_zero c)

/-- A server on one loop is started, and the loop executes `listen`. -/
def listenAlone : List Action :=
  [.start (.other 0), .runListen (.other 0), .tcp (.start 0), .tcp (.swap 0), .tcp (.task 0 .user),
    .tcp (.endTasks 0)]

/-- A run in which the acceptor is registered and nobody connects. -/
theorem onlyPollBlocks_listenAlone :
    ∃ s, machine.Run (initial 0 [] false (fun _ => 3) (fun _ => 4) 5) listenAlone s ∧
      s.Registered 0 5 ∧ s.OnlyPollBlocks := by
  obtain ⟨s, hrun, hregistered⟩ := Machine.Run.of_replay_map machine
    (initial 0 [] false (fun _ => 3) (fun _ => 4) 5) listenAlone
    (fun s => decide (s.poller.channels_ 5 ≠ none)) (by decide +kernel)
  refine ⟨s, hrun, Or.inr (Or.inr (Or.inl ⟨rfl, of_decide_eq_true hregistered⟩)), ?_⟩
  exact (onlyPollBlocks_iff hrun).2 (by decide +kernel)

/-- A client connects. -/
def acceptClient : List Action :=
  listenAlone ++ [.tcp (.poll 0 [.acceptor]), .tcp (.acceptorRead 0 (some 7))]

/-- The descriptor of the connection is registered in blocking mode. -/
theorem not_onlyPollBlocks :
    ¬∀ (size_ : ℕ) (name_ : Bytes) (callback : Bool) (wakeupFd_ timerfd_ : ℕ → ℕ) (acceptFd_ : ℕ)
      (as : List Action) (s : Server),
      machine.Run (initial size_ name_ callback wakeupFd_ timerfd_ acceptFd_) as s →
        s.OnlyPollBlocks := by
  intro h
  obtain ⟨s, hrun, hblocking⟩ := Machine.Run.of_replay_map machine
    (initial 0 [] false (fun _ => 3) (fun _ => 4) 5) acceptClient
    (fun s => decide ((s.tcp.poller 0).channels_ 7 ≠ none ∧ s.flags 7 = some acceptSock))
    (by decide +kernel)
  obtain ⟨hmem, hflags⟩ := of_decide_eq_true hblocking
  obtain ⟨flags, hflags', hnonblock⟩ := h 0 [] false (fun _ => 3) (fun _ => 4) 5 acceptClient s hrun
    0 (Nat.zero_le _) 7 (Or.inr (Or.inr (Or.inr hmem)))
  rw [hflags, Option.some.injEq] at hflags'
  rw [← hflags'] at hnonblock
  cases hnonblock

end Server
end Miniduo
