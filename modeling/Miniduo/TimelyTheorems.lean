import Miniduo.ServingTheorems

/-!
# Callbacks come in time

The handlers of a channel run in the order of `handleEvent`, the read handler before the write
handler. So what `handleWrite` queues finds the connection in `connections_` (`Timely`), and a
`close()` in a callback is made while the connection is there. Where callbacks only read, send and
close, no `closeInLoop` runs on a connection that has been destroyed (`runsOnLive_of_run`).
-/

namespace Miniduo

/-- Work that is put in front of the list. -/
def Work.Follows (w : Work) : Prop := ∃ c, w = .closeCallback c ∨ w = .removeChannel c

/-- Read handlers come from `poll` only. -/
lemma Work.not_follows_handleRead {c : ConnId} : ¬(Work.handleRead c).Follows := by
  rintro ⟨c', h | h⟩ <;> cases h

lemma Work.not_follows_task {t : Task} : ¬(Work.task t).Follows := by
  rintro ⟨c', h | h⟩ <;> cases h

/-- The read handler of a channel does not come behind the write handler. -/
def Work.InOrder (w w' : Work) : Prop := ∀ c, w = .handleWrite c → w' ≠ .handleRead c

namespace TcpServer

variable {s s' : TcpServer} {a : Action} {i j : ℕ} {c : ConnId} {w : Work}

/-! ## What one step does to the list of a thread -/

/-- What becomes of the list of a loop thread. -/
inductive Course (s s' : TcpServer) (a : Action) (j : ℕ) : Prop
  | kept (htodo : (s'.thread j).todo = (s.thread j).todo)
      (hphase : (s'.thread j).phase = (s.thread j).phase ∨
        ((s.thread j).phase = .handlers ∧ (s'.thread j).phase = .top) ∨
          (s.thread j).phase = .notStarted ∨ (s.thread j).phase = .tasks)
  | took {rest : List Work} (hrest : ∀ w ∈ rest, Work.Follows w)
      (hphase : (s'.thread j).phase = (s.thread j).phase)
      (htodo : (s'.thread j).todo = rest ++ (s.thread j).todo.tail)
  | swapped (ha : a = .swap j)
      (htodo : (s'.thread j).todo = (s.loop j).pendingTasks_.map .task)
  | polled {active : List Ready} (ha : a = .poll j active)
      (htodo : (s'.thread j).todo = active.flatMap Ready.work)

/-- What is not put in front has been behind. -/
lemma mem_of_follows {rest l : List Work} (hrest : ∀ w ∈ rest, Work.Follows w)
    (hw : ¬w.Follows) (hmem : w ∈ rest ++ l) : w ∈ l :=
  (List.mem_append.mp hmem).resolve_left fun hnew => hw (hrest w hnew)

lemma course_of_eq (hthread : s'.thread j = s.thread j) : s.Course s' a j :=
  .kept (by rw [hthread]) (Or.inl (by rw [hthread]))

/-- A thread that changes is the one that the step belongs to. -/
lemma course_setThread {th : LoopThread} (h : j = i → s.Course (s.setThread i th) a j) :
    s.Course (s.setThread i th) a j := by
  by_cases hj : j = i
  · exact h hj
  · exact course_of_eq (setThread_thread_ne _ _ _ hj)

/-- `enterUser` leaves the list alone. -/
lemma enterUser_list {arg : Option ConnId} :
    ((s.enterUser i arg).thread j).todo = (s.thread j).todo ∧
      ((s.enterUser i arg).thread j).phase = (s.thread j).phase := by
  by_cases hj : j = i
  · subst hj
    simp [enterUser]
  · rw [enterUser_thread_ne hj]
    exact ⟨rfl, rfl⟩

/-- Loop thread `i` has work put in front of its list, and otherwise the lists are as they were. -/
def Adding (s s' : TcpServer) (i : ℕ) : Prop :=
  (∀ k, (s'.thread k).phase = (s.thread k).phase) ∧ ∃ rest, (∀ w ∈ rest, Work.Follows w) ∧
    ∀ k, (s'.thread k).todo = (if k = i then rest else []) ++ (s.thread k).todo

lemma adding_of_eq (hthread : s'.thread = s.thread) : s.Adding s' i :=
  ⟨fun k => by rw [hthread], [], nofun, fun k => by rw [hthread, ite_self, List.nil_append]⟩

/-- A callback adds nothing. -/
lemma adding_enterUser {arg : Option ConnId} (hthread : s'.thread = s.thread) :
    s.Adding (s'.enterUser i arg) i := by
  refine ⟨fun k => ?_, [], nofun, fun k => ?_⟩
  · rw [enterUser_list.2, hthread]
  · rw [enterUser_list.1, hthread, ite_self, List.nil_append]

/-- A close adds the work that follows it. -/
lemma callsDown.adding {rest : Work} (h : s.callsDown s' i c rest) (hrest : Work.Follows rest) :
    s.Adding s' i := by
  obtain ⟨s₁, heffect, rfl⟩ := h
  refine ⟨fun k => ?_, [rest], fun w hw => List.mem_singleton.mp hw ▸ hrest, fun k => ?_⟩
  · rw [enterUser_list.2, pushWork, ← heffect.thread_eq]
    by_cases hk : k = i
    · rw [hk, setThread_thread_self]
    · rw [setThread_thread_ne _ _ _ hk]
  · rw [enterUser_list.1, pushWork, ← heffect.thread_eq]
    by_cases hk : k = i
    · rw [hk, setThread_thread_self, if_pos rfl]
      rfl
    · rw [setThread_thread_ne _ _ _ hk, if_neg hk]
      rfl

/-- Work is done, or leaves work to follow. -/
lemma Worked.adding (h : s.Worked i w a s') : s.Adding s' i := by
  cases h with
  | nothing _ _ _ => exact adding_of_eq rfl
  | established heffect => exact adding_enterUser heffect.thread_eq
  | destroyedDown h => exact h.adding ⟨_, Or.inr rfl⟩
  | destroyed hgone => exact adding_of_eq hgone.thread_eq
  | removedTask hremoved => exact adding_of_eq hremoved.thread_eq
  | removedHere hremoved => exact adding_of_eq hremoved.thread_eq
  | removedQueued c => exact adding_of_eq rfl
  | channelRemoved hgone => exact adding_of_eq hgone.thread_eq
  | writeComplete c => exact adding_enterUser rfl
  | accepted haccept => exact adding_of_eq haccept.thread_eq
  | shutdown hshutdown => exact adding_of_eq hshutdown.thread_eq
  | closed h => exact h.adding ⟨_, Or.inl rfl⟩
  | again c => exact adding_of_eq rfl
  | peerClosed h => exact h.adding ⟨_, Or.inl rfl⟩
  | read hread => exact adding_enterUser hread.thread_eq
  | written hwrite => exact adding_of_eq hwrite.thread_eq
  | writtenAll hwrite => exact adding_of_eq hwrite.thread_eq
  | userTask => exact adding_enterUser rfl
  | userHandler => exact adding_enterUser rfl

/-- Every action does one of these things to the list of a thread. -/
lemma Outcome.course (h : s.Outcome a s') (j : ℕ) : s.Course s' a j := by
  cases h with
  | @start k hk hphase =>
    by_cases hj : j = k
    · subst hj
      exact .kept (by simp [started, setPhase]) (Or.inr (Or.inr (Or.inl hphase)))
    · exact course_of_eq (by simp [started, setPhase, hj])
  | @swap k hphase =>
    by_cases hj : j = k
    · subst hj
      exact .swapped rfl (by simp [TcpServer.swap, EventLoop.swapTasks])
    · exact course_of_eq (by simp [TcpServer.swap, hj])
  | endTasks hphase =>
    refine course_setThread fun hj => .kept ?_ ?_
    · rw [hj, setThread_thread_self]
    · rw [hj]
      exact Or.inr (Or.inr (Or.inr hphase))
  | poll hallowed =>
    refine course_setThread fun hj => ?_
    subst hj
    exact .polled rfl (by rw [setThread_thread_self])
  | endHandlers hphase =>
    refine course_setThread fun hj => .kept ?_ ?_
    · rw [hj, setThread_thread_self]
    · rw [hj]
      exact Or.inr (Or.inl ⟨hphase, by rw [setThread_thread_self]⟩)
  | userReturns =>
    refine course_setThread fun hj => .kept ?_ (Or.inl ?_) <;> rw [hj, setThread_thread_self]
  | @work k w a s' hnext hworked =>
    obtain ⟨hphase, rest, hrest, htodo⟩ := hworked.adding
    by_cases hj : j = k
    · subst hj
      have hpop : ((s.pop j).thread j).phase = (s.thread j).phase ∧
          ((s.pop j).thread j).todo = (s.thread j).todo.tail := by
        rw [pop, setThread_thread_self]
        exact ⟨rfl, rfl⟩
      refine .took hrest ((hphase j).trans hpop.1) ?_
      rw [htodo j, if_pos rfl, hpop.2]
    · have hpop : (s.pop k).thread j = s.thread j := by
        rw [pop, setThread_thread_ne _ _ _ hj]
      refine .kept ?_ (Or.inl ((hphase j).trans (by rw [hpop])))
      rw [htodo j, if_neg hj, hpop, List.nil_append]
  | acceptQueued hnext => exact course_of_eq rfl
  | @acceptHere k fd s₁ hnext hin heffect =>
    have hthread : s₁.thread = s.thread := heffect.thread_eq
    refine .kept ?_ (Or.inl ?_)
    · rw [enterUser_list.1, hthread]
    · rw [enterUser_list.2, hthread]
  | call hholds hcalled =>
    refine course_of_eq ?_
    cases hcalled with
    | sendQueued _ _ hsend => exact congrFun hsend.thread_eq j
    | sendIgnored _ hsend => exact congrFun hsend.thread_eq j
    | sendAccepted _ hsend haccept => exact congrFun (haccept.thread_eq.trans hsend.thread_eq) j
    | shutdownRun _ hshutdown => exact congrFun hshutdown.thread_eq j
    | _ => rfl
  | queueUser => exact course_of_eq rfl
  | retrieve hretrieve => exact course_of_eq (congrFun hretrieve.thread_eq j)
  | copyPtr hholds => exact course_of_eq rfl
  | dropPtr c => exact course_of_eq rfl

/-! ## Queued callbacks -/

/-- A `writeCompleteCallback_` that waits in a queue has waited there before, or `handleWrite` has
queued it for a connection that was being written to. -/
def QueuesComplete (s s' : TcpServer) (a : Action) (c : ConnId) : Prop :=
  ∀ j, .writeCompleteCallback c ∈ (s'.loop j).pendingTasks_ →
    .writeCompleteCallback c ∈ (s.loop j).pendingTasks_ ∨
      (∃ i written, a = .handleWrite i c written) ∧ (s.conn c).connChannel_.isWriting = true

section
variable {c' : ConnId}

lemma queuesComplete_of_eq (hloop : s'.loop = s.loop) : s.QueuesComplete s' a c :=
  fun _ hj => Or.inl (hloop ▸ hj)

/-- Another task in the queue is no callback. -/
lemma queuesComplete_queueInLoop {s₁ : TcpServer} {t : Task} (hloop : s₁.loop = s.loop)
    (ht : t ≠ .writeCompleteCallback c) : s.QueuesComplete (s₁.queueInLoop i t) a c := by
  intro j hj
  rcases mem_pending_queueInLoop.mp hj with hold | ⟨-, rfl⟩
  · exact Or.inl (hloop ▸ hold)
  · exact absurd rfl ht

/-- An event of a connection leaves the loops. -/
lemma Effect.loop_eq {e : ConnEvent} (h : s.Effect c e s') : s'.loop = s.loop := by
  obtain ⟨conn, p, -, -, rfl⟩ := h
  rfl

/-- A connection is written to while its channel has an interest in that. -/
lemma Effect.isWriting {n : ℕ} (h : s.Effect c (.write n) s') :
    (s.conn c).connChannel_.isWriting = true := by
  have hstep := h.step
  generalize s'.conn c = conn at hstep
  cases hstep <;> assumption

lemma callsDown.loop_eq {rest : Work} (h : s.callsDown s' i c rest) : s'.loop = s.loop := by
  obtain ⟨s₁, heffect, rfl⟩ := h
  exact heffect.loop_eq

lemma channelRemoved.loop_eq (h : s.channelRemoved s' c) : s'.loop = s.loop := by
  obtain ⟨p, -, rfl⟩ := h
  rfl

/-- The removal of a connection queues `connectDestroyed` only. -/
lemma removed.queuesComplete (h : s.removed s' c') : s.QueuesComplete s' a c := by
  obtain ⟨s₁, heffect, -, rfl⟩ := h
  have hloop : (s₁.unmap (s.conn c').name_).loop = s.loop := heffect.loop_eq
  exact queuesComplete_queueInLoop hloop nofun

/-- Of the work of a loop only the write handler queues the callback. -/
lemma Worked.queuesComplete (h : s.Worked i w a s') : s.QueuesComplete s' a c := by
  cases h with
  | nothing _ _ _ => exact queuesComplete_of_eq rfl
  | established heffect => exact queuesComplete_of_eq heffect.loop_eq
  | destroyedDown hdown => exact queuesComplete_of_eq hdown.loop_eq
  | destroyed hgone => exact queuesComplete_of_eq hgone.loop_eq
  | removedTask hremoved => exact hremoved.queuesComplete
  | removedHere hremoved => exact hremoved.queuesComplete
  | removedQueued c => exact queuesComplete_queueInLoop rfl nofun
  | channelRemoved hgone => exact queuesComplete_of_eq hgone.loop_eq
  | writeComplete c => exact queuesComplete_of_eq rfl
  | accepted haccept => exact queuesComplete_of_eq haccept.loop_eq
  | shutdown hshutdown => exact queuesComplete_of_eq hshutdown.loop_eq
  | closed hdown => exact queuesComplete_of_eq hdown.loop_eq
  | again c => exact queuesComplete_queueInLoop rfl nofun
  | peerClosed hdown => exact queuesComplete_of_eq hdown.loop_eq
  | read hread => exact queuesComplete_of_eq hread.loop_eq
  | written hwrite => exact queuesComplete_of_eq hwrite.loop_eq
  | @writtenAll c' n written s₁ hwrite =>
    intro j hj
    rcases mem_pending_queueInLoop.mp hj with hold | ⟨-, hc⟩
    · exact Or.inl (hwrite.loop_eq ▸ hold)
    · cases hc
      exact Or.inr ⟨⟨i, written, rfl⟩, hwrite.isWriting⟩
  | userTask => exact queuesComplete_of_eq rfl
  | userHandler => exact queuesComplete_of_eq rfl

/-- The members of a connection queue other tasks only. -/
lemma Called.queuesComplete {t : Thread} (h : s.Called t c' a s') : s.QueuesComplete s' a c := by
  cases h with
  | sendQueued _ _ hsend => exact queuesComplete_queueInLoop hsend.loop_eq nofun
  | sendIgnored _ hsend => exact queuesComplete_of_eq hsend.loop_eq
  | sendAccepted _ hsend haccept =>
    exact queuesComplete_of_eq (haccept.loop_eq.trans hsend.loop_eq)
  | shutdownQueued _ => exact queuesComplete_queueInLoop rfl nofun
  | shutdownIgnored _ => exact queuesComplete_of_eq rfl
  | shutdownRun _ hshutdown => exact queuesComplete_of_eq hshutdown.loop_eq
  | close => exact queuesComplete_queueInLoop rfl nofun
  | closeInNextLoop => exact queuesComplete_queueInLoop rfl nofun

/-- Of all actions only the write handler queues the callback. -/
lemma Outcome.queuesComplete (h : s.Outcome a s') : s.QueuesComplete s' a c := by
  cases h with
  | @start k hk hphase =>
    intro j hj
    refine Or.inl ?_
    have hj : .writeCompleteCallback c ∈ (Function.update s.loop k _ j).pendingTasks_ := hj
    by_cases hjk : j = k
    · subst hjk
      rw [Function.update_self] at hj
      exact hj
    · rwa [Function.update_of_ne hjk] at hj
  | @swap k hphase =>
    intro j hj
    have hj : .writeCompleteCallback c ∈ (Function.update s.loop k _ j).pendingTasks_ := hj
    by_cases hjk : j = k
    · subst hjk
      rw [Function.update_self] at hj
      cases hj
    -- the queues of the other loops stay
    · rw [Function.update_of_ne hjk] at hj
      exact Or.inl hj
  | work hnext hworked => exact hworked.queuesComplete
  | acceptQueued hnext => exact queuesComplete_queueInLoop rfl nofun
  | acceptHere hnext hin heffect => exact queuesComplete_of_eq heffect.loop_eq
  | call hholds hcalled => exact hcalled.queuesComplete
  | queueUser => exact queuesComplete_queueInLoop rfl nofun
  | retrieve hretrieve => exact queuesComplete_of_eq hretrieve.loop_eq
  | _ => exact queuesComplete_of_eq rfl

end

/-! ## Connections that stay connected -/

/-- A connection is connected until it is closed or half closed. -/
lemma ConnStep.connected {conn conn' : TcpConnection} {e : ConnEvent} (h : ConnStep conn e conn')
    (hstate : conn.state_ = .kConnected) (hclose : ∀ i, e ≠ .close i) (hshutdown : e ≠ .shutdown) :
    conn'.state_ = .kConnected := by
  cases h with
  | shutdownNow _ _ => exact absurd rfl hshutdown
  | shutdownLater _ _ => exact absurd rfl hshutdown
  | establish i _ => rfl
  | close i _ => exact absurd rfl (hclose i)
  | _ => exact hstate

section
variable {c' : ConnId} (hstate : (s.conn c).state_ = .kConnected)
include hstate

/-- Events of other connections, and most of its own, leave a connection connected. -/
lemma Effect.connected {s₁ : TcpServer} {e : ConnEvent} (h : s.Effect c' e s₁)
    (hconn : s'.conn = s₁.conn) (he : c = c' → (∀ i, e ≠ .close i) ∧ e ≠ .shutdown) :
    (s'.conn c).state_ = .kConnected := by
  rw [hconn]
  by_cases hc : c = c'
  · obtain ⟨hclose, hshutdown⟩ := he hc
    subst hc
    exact ConnStep.connected h.step hstate hclose hshutdown
  · rw [h.other hc]
    exact hstate

/-- The close of another connection leaves it connected. -/
lemma callsDown.connected {rest : Work} (h : s.callsDown s' i c' rest) (hc : c ≠ c') :
    (s'.conn c).state_ = .kConnected := by
  obtain ⟨s₁, heffect, rfl⟩ := h
  exact heffect.connected hstate rfl fun heq => absurd heq hc

lemma channelRemoved.connected (h : s.channelRemoved s' c') : (s'.conn c).state_ = .kConnected := by
  obtain ⟨p, -, rfl⟩ := h
  rw [touch, Function.update_eq_self]
  exact hstate

lemma removed.connected (h : s.removed s' c') : (s'.conn c).state_ = .kConnected := by
  obtain ⟨s₁, heffect, -, rfl⟩ := h
  exact heffect.connected hstate rfl fun _ => ⟨nofun, nofun⟩

/-- Only a read, and tasks of the connection, take it down. -/
lemma Worked.connected (h : s.Worked i w a s') (hread : w ≠ .handleRead c)
    (htask : ∀ t, w = .task t → t.raw ≠ some c ∧ t ≠ .connectDestroyed c) :
    (s'.conn c).state_ = .kConnected := by
  cases h with
  | nothing _ _ _ => exact hstate
  | established heffect => exact heffect.connected hstate rfl fun _ => ⟨nofun, nofun⟩
  | destroyedDown hdown => exact hdown.connected hstate fun heq => (htask _ rfl).2 (heq ▸ rfl)
  | destroyed hgone => exact hgone.connected hstate
  | removedTask hremoved => exact hremoved.connected hstate
  | removedHere hremoved => exact hremoved.connected hstate
  | removedQueued c' => exact hstate
  | channelRemoved hgone => exact hgone.connected hstate
  | writeComplete c' => exact hstate
  | accepted haccept => exact haccept.connected hstate rfl fun _ => ⟨nofun, nofun⟩
  | shutdown hshutdown =>
    exact hshutdown.connected hstate rfl fun heq => absurd (heq ▸ rfl) (htask _ rfl).1
  | closed hdown => exact hdown.connected hstate fun heq => (htask _ rfl).1 (heq ▸ rfl)
  | again c' => exact hstate
  | peerClosed hdown => exact hdown.connected hstate fun heq => hread (heq ▸ rfl)
  | read hread' => exact hread'.connected hstate rfl fun _ => ⟨nofun, nofun⟩
  | written hwrite => exact hwrite.connected hstate rfl fun _ => ⟨nofun, nofun⟩
  | writtenAll hwrite => exact hwrite.connected hstate rfl fun _ => ⟨nofun, nofun⟩
  | userTask => exact hstate
  | userHandler => exact hstate

/-- A program of tame calls closes no connection at once. -/
lemma Called.connected {t : Thread} (h : s.Called t c' a s') (ha : a.Tame) :
    (s'.conn c).state_ = .kConnected := by
  cases h with
  | sendQueued _ _ hsend => exact hsend.connected hstate rfl fun _ => ⟨nofun, nofun⟩
  | sendIgnored _ hsend => exact hsend.connected hstate rfl fun _ => ⟨nofun, nofun⟩
  | sendAccepted _ hsend haccept =>
    have hsent := hsend.connected hstate rfl fun _ => ⟨nofun, nofun⟩
    exact haccept.connected hsent rfl fun _ => ⟨nofun, nofun⟩
  | shutdownRun _ _ => exact ha.elim
  | _ => exact hstate

/-- A connection stays connected when neither its read handler nor a task of it is next. -/
lemma Outcome.connected (h : s.Outcome a s') (ha : a.Tame) (hc : c < s.created)
    (hnext : ∀ i w, s.Next i w → w ≠ .handleRead c ∧
      ∀ t, w = .task t → t.raw ≠ some c ∧ t ≠ .connectDestroyed c) :
    (s'.conn c).state_ = .kConnected := by
  have hold : ∀ {fd : ℕ}, ((s.withConnection fd).conn c).state_ = .kConnected := by
    intro fd
    have hconn : (s.withConnection fd).conn c = s.conn c :=
      Function.update_of_ne (Nat.ne_of_lt hc) ..
    rw [hconn]
    exact hstate
  cases h with
  | work hn hworked =>
    exact Worked.connected (s := TcpServer.pop s _) hstate hworked (hnext _ _ hn).1 (hnext _ _ hn).2
  | acceptQueued _ => exact hold
  | acceptHere _ _ heffect => exact heffect.connected hold rfl fun _ => ⟨nofun, nofun⟩
  | call hholds hcalled => exact hcalled.connected hstate ha
  | retrieve hretrieve => exact hretrieve.connected hstate rfl fun _ => ⟨nofun, nofun⟩
  | _ => exact hstate

end

/-! ## The order of the handlers -/

/-- A read handler comes from a channel that is ready for reading. -/
lemma Ready.mem_work_handleRead {r : Ready} (h : .handleRead c ∈ r.work) :
    ∃ write, r = .conn c true write := by
  cases r with
  | conn c' read write => cases read <;> cases write <;> simp [Ready.work] at h <;> simp [h]
  | acceptor => simp [Ready.work] at h
  | other => simp [Ready.work] at h

/-- `poll` leaves handlers only. -/
lemma Ready.task_not_mem_work {r : Ready} {t : Task} : .task t ∉ r.work := by
  cases r with
  | conn c' read write => cases read <;> cases write <;> simp [Ready.work]
  | acceptor => simp [Ready.work]
  | other => simp [Ready.work]

/-- `handleEvent` calls the read handler first. -/
lemma Ready.work_inOrder (r : Ready) : r.work.Pairwise Work.InOrder := by
  cases r with
  | conn c' read write => cases read <;> cases write <;> simp [Ready.work, Work.InOrder]
  | acceptor => exact List.pairwise_singleton ..
  | other => exact List.pairwise_singleton ..

/-- A channel is reported once, and `handleEvent` calls its handlers in order. -/
lemma inOrder_poll {active : List Ready} (hallowed : s.allowed (.poll i active)) :
    (active.flatMap Ready.work).Pairwise Work.InOrder := by
  refine List.pairwise_flatMap.mpr ⟨fun r _ => r.work_inOrder, ?_⟩
  refine (List.pairwise_filterMap.mp hallowed.2.2.1).imp ?_
  intro r r' hne w hw w' hw' c hwrite hread
  subst hwrite hread
  obtain ⟨read, rfl⟩ := Ready.mem_work_handleWrite hw
  obtain ⟨write, rfl⟩ := Ready.mem_work_handleRead hw'
  exact hne c rfl c rfl rfl

/-- The list of a thread stays in order, whatever becomes of it. -/
lemma Course.inOrder (h : s.Course s' a j) (hallowed : s.allowed a)
    (horder : (s.thread j).todo.Pairwise Work.InOrder) :
    (s'.thread j).todo.Pairwise Work.InOrder := by
  cases h with
  | kept htodo _ => rwa [htodo]
  | @took rest hrest _ htodo =>
    have hlate : ∀ w ∈ rest, ∀ w', w.InOrder w' := by
      rintro w hw w' c rfl
      obtain ⟨c', hc' | hc'⟩ := hrest _ hw <;> cases hc'
    rw [htodo]
    refine List.pairwise_append.mpr ⟨?_, horder.tail, fun w hw w' _ => hlate w hw w'⟩
    exact List.pairwise_of_forall_mem_list fun w hw w' _ => hlate w hw w'
  | swapped _ htodo =>
    rw [htodo]
    refine List.pairwise_of_forall_mem_list fun w hw w' _ c hc => ?_
    obtain ⟨t, -, ht⟩ := List.mem_map.mp hw
    rw [hc] at ht
    cases ht
  | polled ha htodo =>
    rw [htodo]
    subst ha
    exact inOrder_poll hallowed

/-! ## The invariant -/

/-- Nothing takes the connection down before loop `i` takes its queue. -/
structure Undisturbed (s : TcpServer) (i : ℕ) (c : ConnId) : Prop where
  state : (s.conn c).state_ = .kConnected
  unread : .handleRead c ∉ (s.thread i).todo
  phase : (s.thread i).phase = .handlers ∨ (s.thread i).phase = .top

/-- Callbacks are called while the connection is secured. -/
structure Timely (s : TcpServer) : Prop where
  order : ∀ i, (s.thread i).todo.Pairwise Work.InOrder
  queued : ∀ i c, .writeCompleteCallback c ∈ (s.loop i).pendingTasks_ → s.Undisturbed i c
  left : ∀ c, s.CallbackLeft c → s.Secured c
  user : ∀ i c, (s.thread i).user = some (some c) → s.Secured c

/-- A connection that is up is in `connections_`. -/
lemma Sound.listed (h : s.Sound) (hc : c < s.created)
    (hup : (s.conn c).state_ = .kConnected ∨ (s.conn c).state_ = .kDisconnecting) :
    s.connections_ (s.conn c).name_ = some c := by
  obtain ⟨stage, hlifecycle⟩ := h.lifecycle
  obtain ⟨reading, hst⟩ := (hlifecycle.fits c hc).eq_up hup
  exact hlifecycle.mapped c hc (by rw [hst]; rfl)

/-- What `doPendingTasks` does first. -/
lemma Outcome.swap_eq (h : s.Outcome (.swap i) s') : s' = s.swap i := by
  cases h with
  | swap hphase => rfl
  | work hnext hworked => cases hworked.work_eq
  | call hholds hcalled => cases hcalled

/-- The queue that is taken is empty. -/
lemma swap_pending : ((s.swap i).loop i).pendingTasks_ = [] := by
  show (Function.update s.loop i _ i).pendingTasks_ = []
  rw [Function.update_self]

/-- The write handler is a piece of work. -/
lemma Outcome.handleWrite {written : Option ℕ} (h : s.Outcome (.handleWrite i c written) s') :
    (s.pop i).Worked i (.handleWrite c) (.handleWrite i c written) s' := by
  cases h with
  | work hnext hworked =>
    obtain ⟨rfl, rfl⟩ := Prod.mk.inj (Option.some.inj hworked.work_eq)
    exact hworked
  | call hholds hcalled => cases hcalled

/-- A connection that goes down has been there before. -/
lemma Outcome.created_of_down (houtcome : s.Outcome a s') (huser : (s.thread i).user = none)
    (huser' : (s'.thread i).user = some (some c)) (hc : c < s'.created)
    (hdown : (s'.conn c).state_ = .kDisconnected) : c < s.created := by
  by_contra hnew
  rcases houtcome.stays with ⟨hcounters, -⟩ | ⟨k, fd, rfl, -, -⟩
  · rw [show s'.created = s.created from congrArg Prod.fst hcounters] at hc
    exact hnew hc
  · cases houtcome with
    | work hnext hworked => cases hworked.work_eq
    | acceptQueued hnext =>
      rw [queueInLoop_thread] at huser'
      exact absurd (huser.symm.trans huser') nofun
    | @acceptHere _ _ s₁ hnext hin heffect =>
      have hlt : c < s₁.created := hc
      rw [heffect.created_eq] at hlt
      obtain rfl : c = s.created :=
        Nat.le_antisymm (Nat.lt_succ_iff.mp hlt) (Nat.le_of_not_lt hnew)
      exact absurd (heffect.established.symm.trans hdown) nofun
    | call hholds hcalled => cases hcalled

section
variable (hattended : s.Attended) (hallowed : s.allowed a) (houtcome : s.Outcome a s')
include hattended hallowed houtcome

/-- A thread that has something to do does not take its queue. -/
lemma Secured.lasts (hfew : s.Few a) (hsecured : s.Secured c) (hlives : s.Lives c i)
    (hbusy : (s.thread i).phase ≠ .top) : s'.Secured c := by
  refine hsecured.outcome hlives.1 hattended.sound hfew houtcome fun hswap => hbusy ?_
  rw [hswap, hlives.2] at hallowed
  exact hallowed

/-- As long as the callback waits in the queue, nothing disturbs its connection. -/
lemma Undisturbed.step (ha : a.Tame) (hold : s.Undisturbed i c) (hlives : s.Lives c i)
    (hmem : .writeCompleteCallback c ∈ (s'.loop i).pendingTasks_) : s'.Undisturbed i c := by
  have hplaced := hattended.sound.placed
  obtain ⟨hstate, hunread, hphase⟩ := hold
  have hnottasks : (s.thread i).phase ≠ .tasks := by
    rcases hphase with hphase | hphase <;> rw [hphase] <;> nofun
  have hconnected : (s'.conn c).state_ = .kConnected := by
    refine houtcome.connected hstate ha hlives.1 fun k w hnext => ?_
    have hat := hplaced.workAt hnext
    have hpart := (hplaced.threads k).part w (hnext.todo_eq ▸ List.mem_cons_self)
    constructor
    · rintro rfl
      have hk : i = k := hlives.2.symm.trans hat.2
      exact hunread (hk ▸ hnext.todo_eq ▸ List.mem_cons_self)
    · -- a task runs in the loop of its connection, and in another phase
      rintro t rfl
      have hlone : s.Lives c k → False := fun hk =>
        hnottasks (hlives.2.symm.trans hk.2 ▸ hpart)
      refine ⟨fun hraw => hlone (TaskAt.lives hat hraw), ?_⟩
      rintro rfl
      exact hlone hat
  cases houtcome.course i with
  | kept htodo hphase' =>
    refine ⟨hconnected, htodo ▸ hunread, ?_⟩
    rcases hphase' with hsame | ⟨-, htop⟩ | hbefore | hbefore
    · exact hsame ▸ hphase
    · exact Or.inr htop
    · rcases hphase with hphase | hphase <;> rw [hphase] at hbefore <;> cases hbefore
    · exact absurd hbefore hnottasks
  -- a read handler is never put in front, so it would have waited before
  | took hrest hphase' htodo =>
    refine ⟨hconnected, fun hread => ?_, hphase' ▸ hphase⟩
    rw [htodo] at hread
    exact hunread (List.mem_of_mem_tail
      (mem_of_follows hrest Work.not_follows_handleRead hread))
  | swapped hswap _ =>
    subst hswap
    rw [houtcome.swap_eq, swap_pending] at hmem
    cases hmem
  | polled hpoll _ =>
    subst hpoll
    have hpolling : (s.thread i).phase = .polling := hallowed.1
    rcases hphase with hphase | hphase <;> rw [hphase] at hpolling <;> cases hpolling

/-- `handleWrite` queues the callback when the read handler has run. -/
lemma Timely.undisturbed {k : ℕ} {written : Option ℕ} (h : s.Timely) (htame : s.Tame)
    (hwrite : a = .handleWrite k c written) (hwriting : (s.conn c).connChannel_.isWriting = true)
    (hlives' : s'.Lives c i) : s'.Undisturbed i c := by
  have hplaced := hattended.sound.placed
  subst hwrite
  have hnext : s.Next k (.handleWrite c) := hallowed.1
  have hlives : s.Lives c k := hplaced.workAt hnext
  obtain rfl : k = i := by
    rw [← hlives'.2, houtcome.extends.2 c hlives.1, hlives.2]
  have hphase : Work.In (.handleWrite c) (s.thread k).phase :=
    (hplaced.threads k).part _ (hnext.todo_eq ▸ List.mem_cons_self)
  have hstate : (s.conn c).state_ = .kConnected := by
    obtain ⟨stage, hlifecycle⟩ := hattended.sound.lifecycle
    have hfits := hlifecycle.fits c hlives.1
    obtain ⟨reading, hst⟩ := hfits.eq_up_of_writing hwriting
    have hmem := hfits.state
    rw [hst] at hmem
    simp only [Stage.states, List.mem_cons, List.not_mem_nil, or_false] at hmem
    exact hmem.resolve_right (htame.conns c hlives.1).state
  have hworked := houtcome.handleWrite
  obtain ⟨hphase', rest, hrest, htodo⟩ := hworked.adding
  have hthread : (s.pop k).thread k = { s.thread k with todo := (s.thread k).todo.tail } :=
    setThread_thread_self ..
  have hconnected : (s'.conn c).state_ = .kConnected :=
    Worked.connected (s := s.pop k) hstate hworked (fun hw => by cases hw) fun t hw => by cases hw
  refine ⟨hconnected, fun hread => ?_, Or.inl ((hphase' k).trans (hthread ▸ hphase))⟩
  rw [htodo k, if_pos rfl, hthread] at hread
  have hold : .handleRead c ∈ (s.thread k).todo.tail :=
    mem_of_follows hrest Work.not_follows_handleRead hread
  -- a read handler behind this write handler would be out of order
  have horder := h.order k
  rw [hnext.todo_eq] at horder
  exact List.rel_of_pairwise_cons horder hold c rfl rfl

/-! ## Every step -/

/-- A callback that is in the queue after a step is undisturbed. -/
lemma Timely.queued_step (h : s.Timely) (htame : s.Tame) (ha : a.Tame) (hplaced' : s'.Placed) :
    ∀ i c, .writeCompleteCallback c ∈ (s'.loop i).pendingTasks_ → s'.Undisturbed i c := by
  intro i c hmem
  rcases houtcome.queuesComplete i hmem with hold | ⟨⟨k, written, hwrite⟩, hwriting⟩
  · have hlives : s.Lives c i := hattended.sound.placed.work i (.task (.writeCompleteCallback c))
      (List.mem_append_right _ (List.mem_map_of_mem hold))
    exact (h.queued i c hold).step hattended hallowed houtcome ha hlives hmem
  · have hlives' : s'.Lives c i := hplaced'.work i (.task (.writeCompleteCallback c))
      (List.mem_append_right _ (List.mem_map_of_mem hmem))
    exact h.undisturbed hattended hallowed houtcome htame hwrite hwriting hlives'

/-- A callback that is left to a batch is called on a secured connection. -/
lemma Timely.left_step (h : s.Timely) (hfew : s.Few a) :
    ∀ c, s'.CallbackLeft c → s'.Secured c := by
  have hplaced := hattended.sound.placed
  intro c hleft
  unfold CallbackLeft at hleft
  generalize hi : (s'.conn c).loop_ = i at hleft
  -- it was left before
  have hkept : .task (.writeCompleteCallback c) ∈ (s.thread i).todo → s'.Secured c := by
    intro hmem
    have hlives : s.Lives c i := hplaced.work i _ (List.mem_append_left _ hmem)
    have hphase : (s.thread i).phase = .tasks := (hplaced.threads i).part _ hmem
    have hbusy : (s.thread i).phase ≠ .top := by rw [hphase]; nofun
    refine Secured.lasts hattended hallowed houtcome hfew (h.left c ?_) hlives hbusy
    unfold CallbackLeft
    rwa [hlives.2]
  cases houtcome.course i with
  | kept htodo _ => exact hkept (htodo ▸ hleft)
  | took hrest _ htodo =>
    rw [htodo] at hleft
    exact hkept (List.mem_of_mem_tail (mem_of_follows hrest Work.not_follows_task hleft))
  | swapped hswap htodo =>
    rw [htodo] at hleft
    obtain ⟨t, hmem, ht⟩ := List.mem_map.mp hleft
    cases ht
    have hlives : s.Lives c i := hplaced.work i (.task (.writeCompleteCallback c))
      (List.mem_append_right _ (List.mem_map_of_mem hmem))
    subst hswap
    rw [houtcome.swap_eq]
    exact Or.inl (hattended.sound.listed hlives.1 (Or.inl (h.queued i c hmem).state))
  | polled hpoll htodo =>
    rw [htodo] at hleft
    obtain ⟨r, -, hr⟩ := List.mem_flatMap.mp hleft
    exact absurd hr Ready.task_not_mem_work

/-- The connection of a callback that is running is secured. -/
lemma Timely.user_step (h : s.Timely) (hfew : s.Few a) (hattended' : s'.Attended) :
    ∀ i c, (s'.thread i).user = some (some c) → s'.Secured c := by
  have hplaced := hattended.sound.placed
  intro i c huser'
  have hlives' : s'.Lives c i := hattended'.sound.placed.user i c huser'
  rcases houtcome.userAfter (j := i) with hsame | ⟨-, hnone⟩ | ⟨arg, hbefore, hafter, hcalls⟩
  · have huser : (s.thread i).user = some (some c) := hsame ▸ huser'
    refine Secured.lasts hattended hallowed houtcome hfew (h.user i c huser)
      (hplaced.user i c huser) ?_
    rcases (hplaced.threads i).user (by rw [huser]; nofun) with hphase | hphase <;>
      rw [hphase] <;> nofun
  · rw [hnone] at huser'
    cases huser'
  · obtain rfl : arg = some c := Option.some.inj (hafter.symm.trans huser')
    cases hcalls c rfl with
    | message hread =>
      subst hread
      have hnext : s.Next i (.handleRead c) := hallowed.1
      have hlives : s.Lives c i := hplaced.workAt hnext
      have hlisted := hattended.sound.listed hlives.1
        (hattended.sound.state_of_read hnext.mem_works)
      exact Secured.outcome (Or.inl hlisted) hlives.1 hattended.sound hfew houtcome nofun
    | complete htask =>
      subst htask
      have hnext : s.Next i (.task (.writeCompleteCallback c)) := hallowed
      have hlives : s.Lives c i := hplaced.workAt hnext
      refine (h.left c ?_).outcome hlives.1 hattended.sound hfew houtcome nofun
      unfold CallbackLeft
      rw [hlives.2, hnext.todo_eq]
      exact List.mem_cons_self
    -- `connectionCallback_`, on the way up and on the way down
    | up hstate => exact Or.inl (hattended'.sound.listed hlives'.1 (Or.inl hstate))
    | down hstate hdown =>
      have hc := houtcome.created_of_down hbefore huser' hlives'.1 hdown
      refine Secured.outcome (Or.inl (hattended.sound.listed hc hstate)) hc hattended.sound hfew
        houtcome fun hswap => ?_
      subst hswap
      rw [houtcome.swap_eq] at hdown
      rcases hstate with hstate | hstate <;> exact absurd (hstate.symm.trans hdown) nofun

/-- Every step keeps callbacks timely. -/
lemma Timely.step (h : s.Timely) (htame : s.Tame) (ha : a.Tame) (hfew : s.Few a)
    (hattended' : s'.Attended) : s'.Timely where
  order i := (houtcome.course i).inOrder hallowed (h.order i)
  queued := h.queued_step hattended hallowed houtcome htame ha hattended'.sound.placed
  left := h.left_step hattended hallowed houtcome hfew
  user := h.user_step hattended hallowed houtcome hfew hattended'

end

lemma timely_initial (size_ : ℕ) (name_ : Bytes) (callback : Bool) :
    (initial size_ name_ callback).Timely where
  order _ := List.Pairwise.nil
  queued _ _ hmem := by cases hmem
  left _ hleft := by cases hleft
  user _ _ huser := by cases huser

/-! ## User code keeps its pointers -/

/-- A raw task is safe without the callback that runs. -/
lemma Timely.covered (h : s.Timely) (htame : s.Tame) (hguarded : s.Guarded c) : s.Covered c := by
  have huse : s.InUse c → s.Secured c := by
    rintro (hhandle | huser | hleft)
    · rw [htame.handles] at hhandle
      cases hhandle
    · exact h.user _ c huser
    · exact h.left c hleft
  constructor
  · intro t ht hraw
    exact (hguarded.pending t ht hraw).elim id huse
  · intro w hw hraw
    cases w with
    | task t =>
      rcases hguarded.batch t hw hraw with hsecured | hused | hbatch
      · exact Or.inl hsecured
      · exact Or.inl (huse hused)
      · exact Or.inr hbatch
    | _ => cases hraw

/-- A callback that calls `close()` does so while its connection is secured. -/
lemma Timely.keeps (h : s.Timely) (hattended : s.Attended) (htame : s.Tame) (ha : a.Tame)
    (hfew : s.Few a) (hallowed : s.allowed a) (hguarded : ∀ c < s.created, s.Guarded c) :
    s.Keeps a := by
  cases a with
  | task k t =>
    cases t with
    | closeInNextLoop c =>
      obtain ⟨c', hc'⟩ := htame.raw k _ (Next.mem_works hallowed) nofun
      cases hc'
    | _ => exact hfew
  | userReturns k =>
    intro c hc
    have huser : (s.thread k).user = some (some c) := Option.join_eq_some_iff.mp hc
    have hlives := hattended.sound.placed.user k c huser
    exact Or.inr (Or.inr (h.covered htame (hguarded c hlives.1)))
  | dropPtr c => exact ha.elim
  | _ => exact hfew

end TcpServer

namespace Serving

variable {χ ρ ω : Type} {callbacks : Callbacks χ ρ ω} {s s' : Serving χ} {size_ : ℕ}
  {name_ : Bytes} {as : List (Action ρ ω)}

/-- A task that is bound to a raw pointer runs on a live connection. -/
def RunsOnLive (s : Serving χ) (a : Action ρ ω) : Prop := ∀ b ∈ a.server, s.tcp.RunsOnLive b

/-- What a reachable state is like, with the connections that tasks are bound to. -/
structure Sheltered (callbacks : Callbacks χ ρ ω) (s : Serving χ) : Prop where
  good : s.Good callbacks
  timely : s.tcp.Timely
  guarded : ∀ c < s.tcp.created, s.tcp.Guarded c

lemma sheltered_initial (callbacks : Callbacks χ ρ ω) (size_ : ℕ) (name_ : Bytes) :
    (initial callbacks size_ name_).Sheltered callbacks where
  good := good_initial callbacks size_ name_
  timely := TcpServer.timely_initial _ _ _
  guarded _ hc := absurd hc (Nat.not_lt_zero _)

/-- Every step of the server with the callbacks keeps it sheltered. -/
lemma Sheltered.step {a : Action ρ ω} (h : s.Sheltered callbacks) (hfew : s.Few a)
    (hallowed : (machine callbacks).allowed s a) (hexec : (machine callbacks).exec s a = .ok s') :
    s'.Sheltered callbacks := by
  have hgood := h.good.step hallowed hexec hfew
  cases hserver : a.server with
  | none =>
    have htakes := exec_takes hexec
    rw [hserver] at htakes
    have htcp : s'.tcp = s.tcp := htakes
    exact ⟨hgood, htcp ▸ h.timely, htcp ▸ h.guarded⟩
  | some b =>
    have hb := server_allowed hallowed hserver
    have htame := server_tame hallowed hserver
    have hbfew := hfew.server hserver
    have houtcome := server_outcome hallowed hexec hserver
    have hsound := h.good.attended.sound
    have hkeeps := h.timely.keeps h.good.attended h.good.tame htame hbfew hb h.guarded
    refine ⟨hgood, h.timely.step h.good.attended hb houtcome h.good.tame htame hbfew
      hgood.attended, fun c hc => ?_⟩
    by_cases hold : c < s.tcp.created
    · exact (h.guarded c hold).outcome hsound.placed hsound.named hold hkeeps houtcome
    · exact TcpServer.guarded_new hsound.placed houtcome hold hc

/-- A task that is bound to a raw pointer runs on a connection that is alive. -/
lemma Sheltered.runsOnLive {a : Action ρ ω} {b : TcpServer.Action} (h : s.Sheltered callbacks)
    (hallowed : (machine callbacks).allowed s a) (hb : a.server = some b) :
    s.tcp.RunsOnLive b := by
  have hnext := server_allowed hallowed hb
  have hplaced := h.good.attended.sound.placed
  cases b with
  | task i t =>
    intro c hraw
    have hlives : s.tcp.Lives c i := TcpServer.TaskAt.lives (hplaced.workAt hnext) hraw
    exact (h.guarded c hlives.1).alive hplaced hnext hraw
  | _ => trivial

/-- **Callbacks that read, send and close are safe**: in every run in which the server is not
destroyed, no `closeInLoop` runs on a connection that has been destroyed. -/
theorem runsOnLive_of_run (hrun : (machine callbacks).Run (initial callbacks size_ name_) as s)
    (hfew : (machine callbacks).AllSteps Few (initial callbacks size_ name_) as) :
    (machine callbacks).AllSteps RunsOnLive (initial callbacks size_ name_) as := by
  exact hrun.allSteps (I := fun s => s.Sheltered callbacks) hfew
    (sheltered_initial callbacks size_ name_)
    (fun _ _ _ h hfew hallowed hexec => h.step hfew hallowed hexec)
    fun _ _ h _ hallowed _ hb => h.runsOnLive hallowed hb

/-- A program that answers with one byte and closes when it is written. -/
def oneByte : Callbacks Unit Unit Unit where
  context := ()
  msgCallback_ _ input _ := .ok ((), [.retrieve input.length, .send [33]])
  writeCompleteCallback_ := some fun _ _ => .ok ((), [.close])
  Reads _ := True
  Returns _ _ := True

instance : DecidablePred oneByte.Reads := fun _ => isTrue trivial
instance : ∀ x y, Decidable (oneByte.Returns x y) := fun _ _ => isTrue trivial

/-- The peer closes the connection before `closeInLoop` runs, so `connectDestroyed` is part of the
same batch. -/
def closesTwice : List (Action Unit Unit) :=
  EchoServer.arrival.map .tcp ++
  [.msgCallback 0 0 [104, 105] (), .call 0 0 (.retrieve 2), .call 0 0 (.send [33])] ++
  EchoServer.writeByte.map .tcp ++
  [.tcp (.endHandlers 0), .tcp (.swap 0), .writeCompleteCallback 0 0 (), .call 0 0 .close] ++
  [TcpServer.Action.userReturns 0, .endTasks 0, .poll 0 [.conn 0 true false],
    .handleRead 0 0 (some []), .userReturns 0, .closeCallback 0 0, .endHandlers 0, .swap 0,
    .task 0 (.closeInLoop 0), .task 0 (.connectDestroyed 0)].map .tcp

theorem runsOnLive_closesTwice :
    (machine oneByte).AllSteps RunsOnLive (initial oneByte 0 []) closesTwice := by
  obtain ⟨s, hrun, -⟩ := Machine.Run.of_replay_map (machine oneByte) (initial oneByte 0 [])
    closesTwice (fun _ => true) (by decide +kernel)
  exact runsOnLive_of_run hrun (by decide +kernel)

end Serving
end Miniduo
