import Miniduo.OwnershipTheorems
import Miniduo.StageTheorems

/-!
# Channels of live connections

The kernel and the poller keep raw pointers to channels, and so does the list of active channels
that an iteration works off. A channel goes with its connection, so none of these pointers may
outlive it. `removeConnectionInLoop` queues `connectDestroyed` for this: it takes the channel out of
the poller in a later batch, when no handler of the connection is left (`channelsLive_of_run`).
-/

namespace Miniduo

namespace TcpServer

variable {s s' : TcpServer} {stage : ConnId → Stage} {i fd : ℕ} {c : ConnId}

/-! ## The poller and the kernel -/

/-- An entry of a poller is that of a connection that is not gone. -/
lemma Staged.owner (h : s.Staged stage) (hsome : (s.poller i).entry fd ≠ (none, none)) :
    ∃ c < s.created, stage c ≠ .gone ∧ (s.conn c).loop_ = i ∧ (s.conn c).connChannel_.fd_ = fd ∧
      (s.poller i).entry fd = (stage c).entry c (s.conn c).connChannel_.events_ := by
  obtain ⟨c, hc, hlive, rfl, rfl⟩ := h.table i fd hsome
  exact ⟨c, hc, hlive, rfl, rfl, h.entry c hc hlive⟩

/-- The entry of a connection is about itself. -/
lemma Stage.eq_of_entry {st : Stage} {c' : ConnId} {events : BitVec 32} :
    (∀ state, (st.entry c' events).1 = some (c, state) → c = c') ∧
      ∀ mask, (st.entry c' events).2 = some (c, mask) → c = c' ∧ mask = events := by
  cases st <;> simp +contextual [Stage.entry, eq_comm]

/-- A channel in the kernel's list belongs to a connection that is alive, on its loop. -/
lemma Lifecycle.kernel_live (h : s.Lifecycle stage) (hplaced : s.Placed) {events : BitVec 32}
    (hepoll : (s.poller i).epoll fd = some (c, events)) :
    s.Alive c ∧ (s.conn c).loop_ = i ∧ (s.conn c).connChannel_ = ⟨fd, events⟩ := by
  have hsome : (s.poller i).entry fd ≠ (none, none) := by
    intro hnone
    have hnone : some (c, events) = none := hepoll.symm.trans (congrArg Prod.snd hnone)
    cases hnone
  obtain ⟨c', hc', hlive, hloop, hfd, hentry⟩ := h.owner hsome
  obtain ⟨rfl, hmask⟩ := Stage.eq_of_entry.2 events ((congrArg Prod.snd hentry).symm.trans hepoll)
  refine ⟨h.alive hplaced hc' hlive, hloop, ?_⟩
  rw [hmask, ← hfd]

/-- A write handler that is to run has a connection that is secured: nothing else tells when the
connection is closed by an earlier handler of the iteration. -/
def WritesSecured (s : TcpServer) : Prop :=
  ∀ i c, .handleWrite c ∈ s.works i → s.Secured c

/-- A connection that is secured is alive. -/
lemma Secured.alive (h : s.Secured c) (hplaced : s.Placed) (hc : c < s.created) : s.Alive c := by
  rcases h with hmap | hwaits
  · exact Or.inl hmap
  · exact Or.inr (Or.inr ⟨_, hplaced.loops c hc, Or.inr
      ⟨.connectDestroyed c, List.mem_append_right _ hwaits, rfl⟩⟩)

/-- A loop thread at work takes no `connectDestroyed` out of a queue. -/
lemma Secured.worked {w : Work} {a : Action} (h : s.Secured c) (hnamed : s.Named)
    (hc : c < s.created) (hw : s.WorkAt i w) (huser : (s.thread i).user = none)
    (hworked : s.Worked i w a s') : s'.Secured c := by
  have henter : ∀ {s₁ : TcpServer} {e : ConnEvent} {c' : ConnId}, s.Effect c' e s₁ →
      (s₁.enterUser i (some c')).Secured c := by
    intro s₁ e c' heffect
    exact (heffect.kept.trans (kept_enterUser (heffect.thread_eq ▸ huser))).secured h
  cases hworked with
  | nothing _ _ _ => exact h
  | established heffect => exact henter heffect
  | destroyedDown hdown => exact (hdown.kept (Or.inr rfl) huser).secured h
  | destroyed hgone => exact hgone.kept.secured h
  | removedTask hremoved => exact (hremoved.kept hnamed hc hw.1).secured h
  | removedHere hremoved => exact (hremoved.kept hnamed hc hw.1).secured h
  | removedQueued c' => exact h.queueInLoop
  | channelRemoved hgone => exact hgone.kept.secured h
  | writeComplete c' => exact (kept_enterUser huser).secured h
  | accepted haccept => exact haccept.kept.secured h
  | shutdown hshutdown => exact hshutdown.kept.secured h
  | closed hdown => exact (hdown.kept (Or.inl rfl) huser).secured h
  | again c' => exact h.queueInLoop
  | peerClosed hdown => exact (hdown.kept (Or.inl rfl) huser).secured h
  | read hread => exact henter hread
  | written hwrite => exact hwrite.kept.secured h
  | writtenAll hwrite => exact (hwrite.kept.secured h).queueInLoop
  | userTask => exact (kept_enterUser huser).secured h
  | userHandler => exact (kept_enterUser huser).secured h

/-- A call of a member leaves a connection secured. -/
lemma Secured.called {t : Thread} {c' : ConnId} {a : Action} (h : s.Secured c)
    (hcalled : s.Called t c' a s') : s'.Secured c := by
  cases hcalled with
  | sendQueued _ _ hsend => exact (hsend.kept.secured h).queueInLoop
  | sendIgnored _ hsend => exact hsend.kept.secured h
  | sendAccepted _ hsend haccept => exact (hsend.kept.trans haccept.kept).secured h
  | shutdownQueued _ => exact h.queueInLoop
  | shutdownIgnored _ => exact h
  | shutdownRun _ hshutdown => exact hshutdown.kept.secured h
  | close => exact h.queueInLoop
  | closeInNextLoop => exact h.queueInLoop

/-! ## What an action adds to what waits -/

/-- The work that an action leaves to do. -/
inductive Adds : Action → Work → Prop
  | poll {i : ℕ} {active : List Ready} {w : Work} (hw : w ∈ active.flatMap Ready.work) :
    Adds (.poll i active) w
  | accept {i fd : ℕ} {c : ConnId} :
    Adds (.acceptorRead i (some fd)) (.task (.connectEstablished c))
  | destroyed {i : ℕ} {c : ConnId} : Adds (.task i (.connectDestroyed c)) (.removeChannel c)
  | removedTask {i : ℕ} {c : ConnId} :
    Adds (.task i (.removeConnectionInLoop c)) (.task (.connectDestroyed c))
  | removedHere {i : ℕ} {c : ConnId} : Adds (.closeCallback i c) (.task (.connectDestroyed c))
  | removedQueued {i : ℕ} {c : ConnId} :
    Adds (.closeCallback i c) (.task (.removeConnectionInLoop c))
  | peerClosed {i : ℕ} {c : ConnId} {data : Option Bytes} :
    Adds (.handleRead i c data) (.closeCallback c)
  | closed {i : ℕ} {c : ConnId} : Adds (.task i (.closeInLoop c)) (.closeCallback c)
  | again {i : ℕ} {c : ConnId} : Adds (.task i (.closeInNextLoop c)) (.task (.closeInLoop c))
  | written {i : ℕ} {c : ConnId} {written : Option ℕ} :
    Adds (.handleWrite i c written) (.task (.writeCompleteCallback c))
  | send {t : Thread} {c : ConnId} {msg : Bytes} :
    Adds (.send t c msg) (.task (.sendInLoop c t msg))
  | shutdown {t : Thread} {c : ConnId} : Adds (.shutdown t c) (.task (.shutdownInLoop c))
  | close {t : Thread} {c : ConnId} : Adds (.close t c) (.task (.closeInLoop c))
  | closeInNextLoop {t : Thread} {c : ConnId} :
    Adds (.closeInNextLoop t c) (.task (.closeInNextLoop c))
  | user {t : Thread} {i : ℕ} : Adds (.queueUser t i) (.task .user)

/-- What waits has waited before, or is of a kind. -/
def Brings (s s' : TcpServer) (P : Work → Prop) : Prop :=
  ∀ j w, w ∈ s'.works j → w ∈ s.works j ∨ P w

section
variable {P : Work → Prop} {w : Work}

lemma Brings.trans {s'' : TcpServer} (h : s.Brings s' P) (h' : s'.Brings s'' P) : s.Brings s'' P :=
  fun j w hw => (h' j w hw).elim (h j w) Or.inr

lemma brings_of_eq (hworks : ∀ j, s'.works j = s.works j) : s.Brings s' P :=
  fun j _ hw => Or.inl (hworks j ▸ hw)

/-- A task is brought by queueing it. -/
lemma brings_queueInLoop {j : ℕ} {t : Task} (hP : P (.task t)) : s.Brings (s.queueInLoop j t) P := by
  intro k w hw
  by_cases hk : k = j
  · subst hk
    rw [works_queueInLoop_self, List.mem_append, List.mem_singleton] at hw
    exact hw.imp_right fun (heq : w = .task t) => heq ▸ hP
  · rw [works_queueInLoop_ne _ hk] at hw
    exact Or.inl hw

/-- Work is brought by leaving it to the thread. -/
lemma brings_pushWork (hP : P w) : s.Brings (s.pushWork i w) P := by
  intro k w' hw
  by_cases hk : k = i
  · subst hk
    rw [works_pushWork_self, List.mem_cons] at hw
    exact hw.symm.imp_right fun (heq : w' = w) => heq ▸ hP
  · rw [works_pushWork_ne _ hk] at hw
    exact Or.inl hw

lemma Effect.brings {e : ConnEvent} (h : s.Effect c e s') : s.Brings s' P :=
  brings_of_eq fun j => congrFun h.works_eq j

lemma Effect.brings_enterUser {e : ConnEvent} {arg : Option ConnId} (h : s.Effect c e s') :
    s.Brings (s'.enterUser i arg) P :=
  h.brings.trans (brings_of_eq fun _ => works_enterUser arg)

/-- A close brings what follows it. -/
lemma callsDown.brings {rest : Work} (h : s.callsDown s' i c rest) (hP : P rest) :
    s.Brings s' P := by
  obtain ⟨s₁, heffect, rfl⟩ := h
  exact (heffect.brings.trans (brings_pushWork hP)).trans
    (brings_of_eq fun _ => works_enterUser _)

lemma channelRemoved.brings (h : s.channelRemoved s' c) : s.Brings s' P := by
  obtain ⟨p, -, rfl⟩ := h
  exact brings_of_eq fun j => by rw [works_touch]

/-- The removal of a connection brings `connectDestroyed`. -/
lemma removed.brings (h : s.removed s' c) (hP : P (.task (.connectDestroyed c))) :
    s.Brings s' P := by
  obtain ⟨s₁, heffect, -, rfl⟩ := h
  have hunmap : s₁.Brings (s₁.unmap (s.conn c).name_) P := brings_of_eq fun _ => rfl
  exact (heffect.brings.trans hunmap).trans (brings_queueInLoop hP)

end

/-- What the work of a loop leaves to do. -/
lemma Worked.brings {w : Work} {a : Action} (h : s.Worked i w a s') : s.Brings s' (Adds a) := by
  cases h with
  | nothing _ _ _ => exact fun _ _ hw => Or.inl hw
  | established heffect => exact heffect.brings_enterUser
  | destroyedDown hdown => exact hdown.brings .destroyed
  | destroyed hgone => exact hgone.brings
  | removedTask hremoved => exact hremoved.brings .removedTask
  | removedHere hremoved => exact hremoved.brings .removedHere
  | removedQueued c => exact brings_queueInLoop .removedQueued
  | channelRemoved hgone => exact hgone.brings
  | accepted haccept => exact haccept.brings
  | shutdown hshutdown => exact hshutdown.brings
  | closed hdown => exact hdown.brings .closed
  | again c => exact brings_queueInLoop .again
  | peerClosed hdown => exact hdown.brings .peerClosed
  | read hread => exact hread.brings_enterUser
  | written hwrite => exact hwrite.brings
  | writtenAll hwrite => exact hwrite.brings.trans (brings_queueInLoop .written)
  | writeComplete c => exact brings_of_eq fun _ => works_enterUser _
  | userTask => exact brings_of_eq fun _ => works_enterUser _
  | userHandler => exact brings_of_eq fun _ => works_enterUser _

/-- What a call of a member leaves to do. -/
lemma Called.brings {t : Thread} {a : Action} (h : s.Called t c a s') : s.Brings s' (Adds a) := by
  cases h with
  | sendQueued _ _ hsend => exact hsend.brings.trans (brings_queueInLoop .send)
  | sendIgnored _ hsend => exact hsend.brings
  | sendAccepted _ hsend haccept => exact hsend.brings.trans haccept.brings
  | shutdownQueued _ => exact brings_queueInLoop .shutdown
  | shutdownIgnored _ => exact fun _ _ hw => Or.inl hw
  | shutdownRun _ hshutdown => exact hshutdown.brings
  | close => exact brings_queueInLoop .close
  | closeInNextLoop => exact brings_queueInLoop .closeInNextLoop

/-- **What waits behind a step** has waited before, or the action adds it. -/
lemma Outcome.brings {a : Action} (h : s.Outcome a s') (hplaced : s.Placed) :
    s.Brings s' (Adds a) := by
  cases h with
  | start hi hphase => exact brings_of_eq fun j => works_started s _ j
  | @swap j hphase =>
    exact brings_of_eq fun _ =>
      works_swap ((hplaced.threads j).todo_eq_nil (by rw [hphase]; decide))
  | @poll j active hallowed =>
    intro k w hw
    by_cases hk : k = j
    · subst hk
      rw [works, setThread_thread_self, setThread_loop, List.mem_append] at hw
      exact hw.symm.imp (List.mem_append_right _) .poll
    · rw [works, setThread_thread_ne _ _ _ hk, setThread_loop] at hw
      exact Or.inl hw
  | @work j w a s' hnext hworked =>
    intro k w' hw
    refine (hworked.brings k w' hw).imp_left fun hold => ?_
    by_cases hk : k = j
    · subst hk
      rw [works_pop_self hnext]
      exact List.mem_cons_of_mem w hold
    · rwa [works_pop_ne hk] at hold
  | @acceptQueued j fd hnext => exact fun k w hw => brings_queueInLoop (P := Adds _) .accept k w hw
  | @acceptHere j fd s₁ hnext hin heffect => exact fun k w hw => heffect.brings_enterUser k w hw
  | call hholds hcalled => exact hcalled.brings
  | queueUser => exact brings_queueInLoop .user
  | retrieve hretrieve => exact hretrieve.brings
  | copyPtr hholds => exact fun _ _ hw => Or.inl hw
  | dropPtr c => exact fun _ _ hw => Or.inl hw
  | endTasks | endHandlers | userReturns => exact brings_of_eq fun _ => works_setThread rfl

/-! ## Every step, every run -/

/-- A write handler comes from a channel that is ready for writing. -/
lemma Ready.mem_work_handleWrite {r : Ready} (h : .handleWrite c ∈ r.work) :
    ∃ read, r = .conn c read true := by
  cases r with
  | conn c' read write => cases read <;> cases write <;> simp [Ready.work] at h <;> simp [h]
  | acceptor => simp [Ready.work] at h
  | other => simp [Ready.work] at h

/-- A channel is reported as writable while its connection is up. -/
lemma Lifecycle.up_of_poll (h : s.Lifecycle stage) (hplaced : s.Placed) {active : List Ready}
    (hallowed : s.allowed (.poll i active)) (hw : .handleWrite c ∈ active.flatMap Ready.work) :
    c < s.created ∧ ∃ reading, stage c = .up reading := by
  obtain ⟨r, hr, hwork⟩ := List.mem_flatMap.mp hw
  obtain ⟨read, rfl⟩ := Ready.mem_work_handleWrite hwork
  have hready := hallowed.2.2.2 _ hr
  unfold ReadyIn at hready
  simp only at hready
  split at hready
  · rename_i ptr events hepoll
    obtain ⟨rfl, -, -⟩ := hready
    exact ⟨(hplaced.kernel i _ _ events hepoll).1, h.up_of_epoll hplaced hepoll⟩
  · exact hready.elim

/-- A connection stays secured but for the step in which its loop takes the queue. -/
lemma Secured.outcome {a : Action} (h : s.Secured c) (hc : c < s.created) (hsound : s.Sound)
    (hfew : s.Few a) (houtcome : s.Outcome a s') (hswap : a ≠ .swap (s.conn c).loop_) :
    s'.Secured c := by
  obtain ⟨hplaced, hnamed, -⟩ := hsound
  -- the queue of its loop and `connections_` are as they were
  have hsame : ∀ {s₁ : TcpServer}, s₁.conn = s.conn → s₁.connections_ = s.connections_ →
      (s₁.loop (s.conn c).loop_).pendingTasks_ = (s.loop (s.conn c).loop_).pendingTasks_ →
      s₁.Secured c := by
    intro s₁ hconn hmap hpending
    unfold Secured
    rw [hconn, hmap, hpending]
    exact h
  have hold : ∀ {fd : ℕ}, s.created + 1 < 2 ^ 31 → s.Kept (s.withConnection fd) c :=
    fun hfew => kept_withConnection hnamed hfew hc
  cases houtcome with
  | @start j hj hphase =>
    refine hsame rfl rfl ?_
    show (Function.update s.loop j _ (s.conn c).loop_).pendingTasks_ = _
    by_cases hloop : (s.conn c).loop_ = j
    · rw [hloop, Function.update_self]
      rfl
    · rw [Function.update_of_ne hloop]
  | @swap j hphase =>
    refine hsame rfl rfl ?_
    show (Function.update s.loop j _ (s.conn c).loop_).pendingTasks_ = _
    rw [Function.update_of_ne fun hloop => hswap (congrArg Action.swap hloop.symm)]
  | endTasks => exact hsame rfl rfl rfl
  | poll hallowed => exact hsame rfl rfl rfl
  | endHandlers => exact hsame rfl rfl rfl
  | userReturns => exact hsame rfl rfl rfl
  | @work j w a s' hnext hworked =>
    have huser : ((s.pop j).thread j).user = none := by
      rw [TcpServer.pop, setThread_thread_self]
      exact hnext.1
    exact Secured.worked (s := s.pop j) h hnamed.pop hc (hplaced.workAt hnext) huser hworked
  | @acceptQueued j fd hnext => exact ((hold hfew).secured h).queueInLoop
  | @acceptHere j fd s₁ hnext hin heffect =>
    refine ((hold hfew).trans (heffect.kept.trans (kept_enterUser ?_))).secured h
    rw [heffect.thread_eq]
    exact hnext.1
  | call hholds hcalled => exact h.called hcalled
  | queueUser => exact h.queueInLoop
  | retrieve hretrieve => exact hretrieve.kept.secured h
  | copyPtr hholds => exact h
  | dropPtr c => exact h

/-- A write handler that is added is one of a connection that is up, and none is left when the loop
takes its queue. -/
lemma WritesSecured.outcome {a : Action} (h : s.WritesSecured) (hsound : s.Sound) (hfew : s.Few a)
    (hallowed : s.allowed a) (houtcome : s.Outcome a s') : s'.WritesSecured := by
  have hplaced := hsound.placed
  have hold : ∀ {k c}, .handleWrite c ∈ s.works k → s'.Secured c := by
    intro k c hw
    obtain ⟨hc, hloop⟩ : s.Lives c k := hplaced.work k _ hw
    refine (h k c hw).outcome hc hsound hfew houtcome fun ha => ?_
    rw [ha, hloop] at hallowed
    have hphase : (s.thread k).phase = .top := hallowed
    rw [works, (hplaced.threads k).todo_eq_nil (by rw [hphase]; decide), List.nil_append] at hw
    obtain ⟨t, -, ht⟩ := List.mem_map.mp hw
    cases ht
  intro k c hw
  rcases houtcome.brings hplaced k _ hw with hw | hadds
  · exact hold hw
  · cases hadds with
    | poll hw =>
      obtain ⟨stage, hlifecycle⟩ := hsound.lifecycle
      obtain ⟨hc, reading, hst⟩ := hlifecycle.up_of_poll hplaced hallowed hw
      have hsecured : s.Secured _ := Or.inl (hlifecycle.mapped _ hc (by rw [hst]; rfl))
      exact hsecured.outcome hc hsound hfew houtcome fun ha => by cases ha

/-- What the step of a run keeps, the stages included. -/
structure Attended (s : TcpServer) : Prop where
  names : s.Numbered ∧ s.Bears
  sound : s.Sound
  writes : s.WritesSecured

/-- Every step keeps what a run keeps. -/
lemma Attended.step {a : Action} (h : s.Attended) (hfew : s.Few a) (hallowed : machine.allowed s a)
    (hexec : machine.exec s a = .ok s') : s'.Attended := by
  obtain ⟨hplaced, hnamed, hstage⟩ := h.sound
  have houtcome := exec_outcome hallowed hexec
  have hfree : s.FindsFree a := hfew.recycled.findsFree h.names.1 h.names.2
  obtain ⟨hplaced', hstage'⟩ := staged_step ⟨hplaced, hstage⟩ hfree hallowed hexec
  exact ⟨names_step h.names hallowed hexec, ⟨hplaced', hnamed.outcome hfew houtcome, hstage'⟩,
    h.writes.outcome h.sound hfew hallowed houtcome⟩

lemma attended_initial (size_ : ℕ) (name_ : Bytes) (callback : Bool) :
    (initial size_ name_ callback).Attended := by
  obtain ⟨hplaced, hstage⟩ := staged_initial size_ name_ callback
  exact ⟨names_initial _ _ _, ⟨hplaced, named_initial _ _ _, hstage⟩, fun _ _ hw => nomatch hw⟩

variable {size_ : ℕ} {name_ : Bytes} {callback : Bool} {as : List Action}

/-- Every state of a run in which few connections are accepted is attended. -/
lemma attended_of_run (hrun : machine.Run (initial size_ name_ callback) as s)
    (hfew : machine.AllSteps Few (initial size_ name_ callback) as) : s.Attended :=
  hrun.invariant hfew (attended_initial _ _ _) fun _ _ _ h => h.step

end TcpServer
end Miniduo
