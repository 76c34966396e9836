import Miniduo.TcpConnectionTheorems
import Miniduo.TcpServer

/-!
# What an action of the server can do

`Outcome` lists, for every action, the states in which it can leave the server; `exec_outcome` is
the only place where `exec` is taken apart. Two things follow for every run: `Placed`, which says
where threads, tasks and handlers can be, and `conn_steps`, which reduces a step of the server to
events of its connections.
-/

namespace Miniduo
namespace TcpServer

/-! ## The operations, field by field -/

section
variable (s : TcpServer) (i : ℕ) (th : LoopThread) (cb : Task)

/-- `setThread` touches one loop thread and nothing else of the server. -/
@[simp] lemma setThread_conn : (s.setThread i th).conn = s.conn := rfl
@[simp] lemma setThread_loop : (s.setThread i th).loop = s.loop := rfl
@[simp] lemma setThread_poller : (s.setThread i th).poller = s.poller := rfl
@[simp] lemma setThread_connections : (s.setThread i th).connections_ = s.connections_ := rfl
@[simp] lemma setThread_created : (s.setThread i th).created = s.created := rfl
@[simp] lemma setThread_handles : (s.setThread i th).handles = s.handles := rfl
@[simp] lemma setThread_size : (s.setThread i th).size_ = s.size_ := rfl

@[simp] lemma setThread_thread_self : (s.setThread i th).thread i = th := Function.update_self ..

@[simp] lemma setThread_thread_ne {j : ℕ} (h : j ≠ i) :
    (s.setThread i th).thread j = s.thread j := Function.update_of_ne h ..

/-- `queueInLoop` touches the queue of one loop and nothing else of the server. -/
@[simp] lemma queueInLoop_conn : (s.queueInLoop i cb).conn = s.conn := rfl
@[simp] lemma queueInLoop_thread : (s.queueInLoop i cb).thread = s.thread := rfl
@[simp] lemma queueInLoop_poller : (s.queueInLoop i cb).poller = s.poller := rfl
@[simp] lemma queueInLoop_connections : (s.queueInLoop i cb).connections_ = s.connections_ := rfl
@[simp] lemma queueInLoop_created : (s.queueInLoop i cb).created = s.created := rfl
@[simp] lemma queueInLoop_handles : (s.queueInLoop i cb).handles = s.handles := rfl
@[simp] lemma queueInLoop_size : (s.queueInLoop i cb).size_ = s.size_ := rfl

@[simp] lemma queueInLoop_loop_self : (s.queueInLoop i cb).loop i = (s.loop i).queueInLoop cb :=
  Function.update_self ..

@[simp] lemma queueInLoop_loop_ne {j : ℕ} (h : j ≠ i) :
    (s.queueInLoop i cb).loop j = s.loop j := Function.update_of_ne h ..

/-- A task in its queue does not start or stop a loop. -/
lemma queueInLoop_stoplooping (j : ℕ) :
    ((s.queueInLoop i cb).loop j).stoplooping_ = (s.loop j).stoplooping_ := by
  by_cases h : j = i
  · rw [h, queueInLoop_loop_self]
    rfl
  · rw [queueInLoop_loop_ne _ _ _ h]

/-- A task in its queue does not give a loop to another thread. -/
lemma queueInLoop_tid (j : ℕ) :
    ((s.queueInLoop i cb).loop j).tid_ = (s.loop j).tid_ := by
  by_cases h : j = i
  · rw [h, queueInLoop_loop_self]
    rfl
  · rw [queueInLoop_loop_ne _ _ _ h]

end

/-! ## What waits for a loop thread -/

/-- The rest of the present part of the iteration, and the tasks in the queue. -/
def works (s : TcpServer) (i : ℕ) : List Work :=
  (s.thread i).todo ++ (s.loop i).pendingTasks_.map .task

section
variable {s : TcpServer} {i j : ℕ}

/-- What happens to a connection and to its poller leaves nothing to do. -/
@[simp] lemma works_touch (c : ConnId) (conn : TcpConnection) (p : EPollPoller ConnId) :
    (s.touch c conn p).works = s.works := rfl

@[simp] lemma works_enterUser (arg : Option ConnId) : (s.enterUser i arg).works j = s.works j := by
  unfold works enterUser
  by_cases h : j = i
  · rw [h, setThread_thread_self, setThread_loop]
  · rw [setThread_thread_ne _ _ _ h, setThread_loop]

/-- A task that is queued comes last. -/
@[simp] lemma works_queueInLoop_self (cb : Task) :
    (s.queueInLoop i cb).works i = s.works i ++ [.task cb] := by
  simp [works, EventLoop.queueInLoop, EventLoop.wakeup]

@[simp] lemma works_queueInLoop_ne (cb : Task) (h : j ≠ i) :
    (s.queueInLoop i cb).works j = s.works j := by
  simp [works, h]

/-- What a handler leaves behind it is done next. -/
@[simp] lemma works_pushWork_self (w : Work) : (s.pushWork i w).works i = w :: s.works i := by
  simp [works, pushWork]

@[simp] lemma works_pushWork_ne (w : Work) (h : j ≠ i) :
    (s.pushWork i w).works j = s.works j := by
  simp [works, pushWork, h]

/-- The next piece of work is the first on the list. -/
lemma Next.todo_eq {w : Work} (h : s.Next i w) :
    (s.thread i).todo = w :: (s.thread i).todo.tail := by
  obtain ⟨-, hhead⟩ := h
  exact List.eq_cons_of_mem_head? hhead

/-- `pop` takes the next piece of work and leaves the rest. -/
lemma works_pop_self {w : Work} (h : s.Next i w) : s.works i = w :: (s.pop i).works i := by
  unfold works pop
  rw [setThread_thread_self, setThread_loop, h.todo_eq]
  rfl

@[simp] lemma works_pop_ne (h : j ≠ i) : (s.pop i).works j = s.works j := by
  simp [works, pop, h]

/-- What a loop thread has left to do depends on its list and on the queue. -/
lemma works_setThread {th : LoopThread} (htodo : th.todo = (s.thread i).todo) :
    (s.setThread i th).works j = s.works j := by
  by_cases hj : j = i
  · rw [hj, works, works, setThread_thread_self, setThread_loop, htodo]
  · rw [works, works, setThread_thread_ne _ _ _ hj, setThread_loop]

/-- Taking the queue moves the tasks in front, to where nothing was left. -/
lemma works_swap (h : (s.thread i).todo = []) : (s.swap i).works j = s.works j := by
  unfold swap works EventLoop.swapTasks
  by_cases hj : j = i
  · subst hj
    simp [h, setThread]
  · simp [hj, setThread]

end

/-! ## Members of `TcpServer` -/

/-- The loop that `allocLoop` gives out. -/
def nextLoop (s : TcpServer) : ℕ := if s.size_ = 0 then 0 else s.next_ + 1

/-- The connection that `newConnection` makes. -/
def opened (s : TcpServer) (sockfd : ℕ) : TcpConnection :=
  { loop_ := s.nextLoop, name_ := connName s.name_ s.nextConnId_, connChannel_ := { fd_ := sockfd } }

/-- The server with a new connection that is not yet established. -/
def withConnection (s : TcpServer) (sockfd : ℕ) : TcpServer :=
  { s with
    next_ := if s.size_ = 0 then s.next_ else (s.next_ + 1) % s.size_
    nextConnId_ := toInt (s.nextConnId_ + 1)
    conn := Function.update s.conn s.created (s.opened sockfd)
    created := s.created + 1
    connections_ := Function.update s.connections_ (connName s.name_ s.nextConnId_) (some s.created) }

/-- The server without a name in `connections_`. -/
def unmap (s : TcpServer) (name : Bytes) : TcpServer :=
  { s with connections_ := Function.update s.connections_ name none }

/-- `removeConnectionInLoop` has run. -/
def removed (s s' : TcpServer) (c : ConnId) : Prop :=
  ∃ s₁, s.Effect c .removal s₁ ∧ s.connections_ (s.conn c).name_ ≠ none ∧
    s' = (s₁.unmap (s.conn c).name_).queueInLoop (s.conn c).loop_ (.connectDestroyed c)

section
variable {s s' : TcpServer} {i c : ℕ}

/-- `newConnection` makes the connection, then establishes it at once or queues that in the
connection's loop. -/
lemma newConnection_eq (s : TcpServer) (i fd : ℕ) : s.newConnection i fd = (do
    s.assertInLoopThread 0 i
    if (s.loop s.nextLoop).isInLoopThread i then
      (s.withConnection fd).connectEstablished i s.created
    else
      return (s.withConnection fd).queueInLoop s.nextLoop (.connectEstablished s.created)) := by
  unfold newConnection allocLoop
  -- without sub-loops the acceptor's loop has the connection, and `next_` stays
  by_cases hsize : s.size_ = 0 <;>
    simp [withConnection, nextLoop, opened, hsize, setConn]

/-- What a `newConnection` that returns has done: queued the establishing, or established the
connection in its own loop. -/
lemma newConnection_ok {fd : ℕ} (h : s.newConnection i fd = .ok s') :
    s' = (s.withConnection fd).queueInLoop s.nextLoop (.connectEstablished s.created) ∨
      ∃ s₁, (s.loop s.nextLoop).isInLoopThread i = true ∧
        (s.withConnection fd).Effect s.created (.establish i) s₁ ∧
        s' = s₁.enterUser i (some s.created) := by
  rw [newConnection_eq] at h
  obtain ⟨-, -, h⟩ := except_bind_eq_ok.mp h
  split at h
  · rename_i hin
    obtain ⟨s₁, heffect, hs'⟩ := connectEstablished_ok h
    exact Or.inr ⟨s₁, hin, heffect, hs'⟩
  · exact Or.inl (Except.ok.inj h).symm

/-- A `removeConnectionInLoop` that returns has found the name, erased it and queued
`connectDestroyed`. -/
lemma removeConnectionInLoop_ok (h : s.removeConnectionInLoop i c = .ok s') : s.removed s' c := by
  unfold removeConnectionInLoop at h
  obtain ⟨-, -, h⟩ := except_bind_eq_ok.mp h
  obtain ⟨_, hmapped, h⟩ := except_bind_eq_ok.mp h
  exact ⟨_, effect_setConn .removal ⟨rfl, rfl⟩, assertThat_eq_ok.mp hmapped, (Except.ok.inj h).symm⟩

end

/-! ## One case for each thing an action can do -/

/-- The server after `loop()` has entered its `while` loop. -/
def started (s : TcpServer) (i : ℕ) : TcpServer :=
  let loop := { (s.loop i).settid i with stoplooping_ := false }
  { s with loop := Function.update s.loop i loop }.setPhase i .top

/-- A loop that starts has what was queued before. -/
lemma works_started (s : TcpServer) (i j : ℕ) : (s.started i).works j = s.works j := by
  unfold works started setPhase
  by_cases hj : j = i
  · subst hj
    simp [setThread, EventLoop.settid]
  · simp [setThread, hj]

/-- A call by thread `t` of a member of connection `c`, in the loop of the connection or not. -/
inductive Called (s : TcpServer) (t : Thread) (c : ConnId) : Action → TcpServer → Prop
  | sendQueued {msg : Bytes} {s₁ : TcpServer}
      (hout : (s.loop (s.conn c).loop_).isInLoopThread t.tid = false)
      (hlength : msg.length ≤ maxSize) (hsend : s.Effect c (.send t msg) s₁) :
    Called s t c (.send t c msg) (s₁.queueInLoop (s.conn c).loop_ (.sendInLoop c t msg))
  | sendIgnored {msg : Bytes} {s₁ : TcpServer}
      (hin : (s.loop (s.conn c).loop_).isInLoopThread t.tid = true)
      (hsend : s.Effect c (.send t msg) s₁) : Called s t c (.send t c msg) s₁
  | sendAccepted {msg : Bytes} {s₁ s₂ : TcpServer}
      (hin : (s.loop (s.conn c).loop_).isInLoopThread t.tid = true)
      (hsend : s.Effect c (.send t msg) s₁) (haccept : s₁.Effect c (.accept t msg) s₂) :
    Called s t c (.send t c msg) s₂
  | shutdownQueued (hout : (s.loop (s.conn c).loop_).isInLoopThread t.tid = false) :
    Called s t c (.shutdown t c) (s.queueInLoop (s.conn c).loop_ (.shutdownInLoop c))
  | shutdownIgnored (hstate : (s.conn c).state_ ≠ .kConnected) : Called s t c (.shutdown t c) s
  | shutdownRun {s₁ : TcpServer} (hin : (s.loop (s.conn c).loop_).isInLoopThread t.tid = true)
      (hshutdown : s.Effect c .shutdown s₁) : Called s t c (.shutdown t c) s₁
  | close : Called s t c (.close t c) (s.queueInLoop (s.conn c).loop_ (.closeInLoop c))
  | closeInNextLoop :
    Called s t c (.closeInNextLoop t c) (s.queueInLoop (s.conn c).loop_ (.closeInNextLoop c))

/-- The work that an action takes off the list of a loop thread. -/
def Action.work : Action → Option (ℕ × Work)
  | .task i t => some (i, .task t)
  | .acceptorRead i none => some (i, .acceptorRead)
  | .handleRead i c _ => some (i, .handleRead c)
  | .handleWrite i c _ => some (i, .handleWrite c)
  | .userHandler i => some (i, .userHandler)
  | .closeCallback i c => some (i, .closeCallback c)
  | .removeChannel i c => some (i, .removeChannel c)
  | _ => none

/-- What loop thread `i` does with the work it has taken off its list. -/
inductive Worked (s : TcpServer) (i : ℕ) : Work → Action → TcpServer → Prop
  /-- A round of `accept`, a read or a write that fails, or a task that finds nothing to do. -/
  | nothing {w : Work} {a : Action} (ha : a.work = some (i, w))
      (hw : w = .acceptorRead ∨ (∃ c, w = .handleRead c) ∨ (∃ c, w = .handleWrite c) ∨
        ∃ t : Task, w = .task t ∧ t.raw ≠ none)
      (hstate : ∀ c, w = .task (.shutdownInLoop c) → (s.conn c).state_ ≠ .kConnected) :
    Worked s i w a s
  | established {c : ConnId} {s₁ : TcpServer} (heffect : s.Effect c (.establish i) s₁) :
    Worked s i (.task (.connectEstablished c)) (.task i (.connectEstablished c))
      (s₁.enterUser i (some c))
  | destroyedDown {c : ConnId} {s₁ : TcpServer} (hdown : s.callsDown s₁ i c (.removeChannel c)) :
    Worked s i (.task (.connectDestroyed c)) (.task i (.connectDestroyed c)) s₁
  | destroyed {c : ConnId} {s₁ : TcpServer} (hgone : s.channelRemoved s₁ c) :
    Worked s i (.task (.connectDestroyed c)) (.task i (.connectDestroyed c)) s₁
  | removedTask {c : ConnId} {s₁ : TcpServer} (hremoved : s.removed s₁ c) :
    Worked s i (.task (.removeConnectionInLoop c)) (.task i (.removeConnectionInLoop c)) s₁
  | removedHere {c : ConnId} {s₁ : TcpServer} (hremoved : s.removed s₁ c) :
    Worked s i (.closeCallback c) (.closeCallback i c) s₁
  | removedQueued (c : ConnId) : Worked s i (.closeCallback c) (.closeCallback i c)
      (s.queueInLoop 0 (.removeConnectionInLoop c))
  | channelRemoved {c : ConnId} {s₁ : TcpServer} (hgone : s.channelRemoved s₁ c) :
    Worked s i (.removeChannel c) (.removeChannel i c) s₁
  | writeComplete (c : ConnId) : Worked s i (.task (.writeCompleteCallback c))
      (.task i (.writeCompleteCallback c)) (s.enterUser i (some c))
  | accepted {c : ConnId} {t : Thread} {msg : Bytes} {s₁ : TcpServer}
      (haccept : s.Effect c (.accept t msg) s₁) :
    Worked s i (.task (.sendInLoop c t msg)) (.task i (.sendInLoop c t msg)) s₁
  | shutdown {c : ConnId} {s₁ : TcpServer} (hshutdown : s.Effect c .shutdown s₁) :
    Worked s i (.task (.shutdownInLoop c)) (.task i (.shutdownInLoop c)) s₁
  | closed {c : ConnId} {s₁ : TcpServer} (hdown : s.callsDown s₁ i c (.closeCallback c)) :
    Worked s i (.task (.closeInLoop c)) (.task i (.closeInLoop c)) s₁
  | again (c : ConnId) : Worked s i (.task (.closeInNextLoop c)) (.task i (.closeInNextLoop c))
      (s.queueInLoop (s.conn c).loop_ (.closeInLoop c))
  | peerClosed {c : ConnId} {data : Option Bytes} {s₁ : TcpServer}
      (hdown : s.callsDown s₁ i c (.closeCallback c)) :
    Worked s i (.handleRead c) (.handleRead i c data) s₁
  | read {c : ConnId} {data : Bytes} {s₁ : TcpServer} (hread : s.Effect c (.read data) s₁) :
    Worked s i (.handleRead c) (.handleRead i c (some data)) (s₁.enterUser i (some c))
  | written {c : ConnId} {n : ℕ} {written : Option ℕ} {s₁ : TcpServer}
      (hwrite : s.Effect c (.write n) s₁) :
    Worked s i (.handleWrite c) (.handleWrite i c written) s₁
  | writtenAll {c : ConnId} {n : ℕ} {written : Option ℕ} {s₁ : TcpServer}
      (hwrite : s.Effect c (.write n) s₁) :
    Worked s i (.handleWrite c) (.handleWrite i c written)
      (s₁.queueInLoop (s.conn c).loop_ (.writeCompleteCallback c))
  | userTask : Worked s i (.task .user) (.task i .user) (s.enterUser i none)
  | userHandler : Worked s i .userHandler (.userHandler i) (s.enterUser i none)

/-- What an action can make of the server, one case for each thing it can do. -/
inductive Outcome (s : TcpServer) : Action → TcpServer → Prop
  | start {i : ℕ} (hi : i ≤ s.size_) (hphase : (s.thread i).phase = .notStarted) :
    Outcome s (.start i) (s.started i)
  | swap {i : ℕ} (hphase : (s.thread i).phase = .top) : Outcome s (.swap i) (s.swap i)
  | endTasks {i : ℕ} (hphase : (s.thread i).phase = .tasks) (htodo : (s.thread i).todo = [])
      (huser : (s.thread i).user = none) :
    Outcome s (.endTasks i) (s.setThread i { s.thread i with phase := .polling, tasks := [] })
  | poll {i : ℕ} {active : List Ready} (hallowed : s.allowed (.poll i active)) :
    Outcome s (.poll i active)
      (s.setThread i { s.thread i with phase := .handlers, todo := active.flatMap Ready.work })
  | endHandlers {i : ℕ} (hphase : (s.thread i).phase = .handlers)
      (htodo : (s.thread i).todo = []) (huser : (s.thread i).user = none) :
    Outcome s (.endHandlers i) (s.setPhase i .top)
  | userReturns {i : ℕ} (huser : (s.thread i).user ≠ none) :
    Outcome s (.userReturns i) (s.setThread i { s.thread i with user := none })
  | work {i : ℕ} {w : Work} {a : Action} {s' : TcpServer} (hnext : s.Next i w)
      (hworked : (s.pop i).Worked i w a s') : Outcome s a s'
  | acceptQueued {i fd : ℕ} (hnext : s.Next i .acceptorRead) :
    Outcome s (.acceptorRead i (some fd))
      ((s.withConnection fd).queueInLoop s.nextLoop (.connectEstablished s.created))
  | acceptHere {i fd : ℕ} {s₁ : TcpServer} (hnext : s.Next i .acceptorRead)
      (hin : (s.loop s.nextLoop).isInLoopThread i = true)
      (heffect : (s.withConnection fd).Effect s.created (.establish i) s₁) :
    Outcome s (.acceptorRead i (some fd)) (s₁.enterUser i (some s.created))
  | call {t : Thread} {c : ConnId} {a : Action} {s' : TcpServer} (hholds : s.Holds t c)
      (hcalled : s.Called t c a s') : Outcome s a s'
  | queueUser {t : Thread} {i : ℕ} : Outcome s (.queueUser t i) (s.queueInLoop i .user)
  | retrieve {i c len : ℕ} {s₁ : TcpServer} (hretrieve : s.Effect c (.retrieve len) s₁) :
    Outcome s (.retrieve i c len) s₁
  | copyPtr {t : Thread} {c : ConnId} (hholds : s.Holds t c) :
    Outcome s (.copyPtr t c) { s with handles := c :: s.handles }
  | dropPtr (c : ConnId) : Outcome s (.dropPtr c) { s with handles := s.handles.erase c }

/-- What is done with a piece of work is an action for that piece. -/
lemma Worked.work_eq {s s' : TcpServer} {i : ℕ} {w : Work} {a : Action} (h : s.Worked i w a s') :
    a.work = some (i, w) := by
  cases h with
  | nothing ha _ _ => exact ha
  | _ => rfl

/-- A task is run by the action `task` only. -/
lemma Action.eq_task {a : Action} {i : ℕ} {t : Task} (h : a.work = some (i, .task t)) :
    a = .task i t := by
  cases a with
  | task j t' => cases h; rfl
  | acceptorRead j connfd => cases connfd <;> cases h
  | _ => cases h

section
variable {s s' : TcpServer} {i : ℕ}

/-- What a task that returns has done, one case for each kind. -/
lemma runTask_ok {t : Task} (h : s.runTask i t = .ok s') :
    s.Worked i (.task t) (.task i t) s' := by
  -- a task that finds the connection in another state than it needs does nothing
  have hraw : ∀ t : Task, t.raw ≠ none →
      (∀ c, Work.task t = .task (.shutdownInLoop c) → (s.conn c).state_ ≠ .kConnected) →
      s' = s → s.Worked i (.task t) (.task i t) s' := by
    intro t ht hstate hs
    rw [hs]
    exact .nothing rfl (Or.inr (Or.inr (Or.inr ⟨t, rfl, ht⟩))) hstate
  cases t with
  | connectEstablished c =>
    obtain ⟨s₁, heffect, hs'⟩ := connectEstablished_ok h
    rw [hs']
    exact .established heffect
  | connectDestroyed c =>
    rcases connectDestroyed_ok h with hdown | hgone
    · exact .destroyedDown hdown
    · exact .destroyed hgone
  | removeConnectionInLoop c => exact .removedTask (removeConnectionInLoop_ok h)
  | writeCompleteCallback c =>
    rw [← Except.ok.inj h]
    exact .writeComplete c
  | sendInLoop c t msg =>
    rcases sendInLoop_ok h with hs | haccept
    · exact hraw _ (by simp [Task.raw]) (by simp) hs
    · exact .accepted haccept
  | shutdownInLoop c =>
    rcases shutdownInLoop_ok h with ⟨hs, hstate⟩ | hshutdown
    -- `shutdownInLoop` is ignored in another state than `kConnected` only
    · refine hraw _ (by simp [Task.raw]) (fun c' hc' => ?_) hs
      cases hc'
      exact hstate
    · exact .shutdown hshutdown
  | closeInLoop c =>
    rcases closeInLoop_ok h with hs | hdown
    · exact hraw _ (by simp [Task.raw]) (by simp) hs
    · exact .closed hdown
  | closeInNextLoop c =>
    rw [← Except.ok.inj h]
    exact .again c
  | user =>
    rw [← Except.ok.inj h]
    exact .userTask

/-- What a `send` that returns has done: queued the task, or run it where the state decides what is
left. -/
lemma send_ok {t : Thread} {c : ConnId} {msg : Bytes} (hlength : msg.length ≤ maxSize)
    (h : s.send t c msg = .ok s') : s.Called t c (.send t c msg) s' := by
  have hsend : s.Effect c (.send t msg) (s.setConn c { s.conn c with
      log.sends := (s.conn c).log.sends ++ [(t, msg)] }) := effect_setConn (.send t msg) ⟨rfl, rfl⟩
  unfold send at h
  simp only at h
  split at h
  · rename_i hin
    rcases sendInLoop_ok h with hs | haccept
    · rw [hs]
      exact .sendIgnored hin hsend
    · exact .sendAccepted hin hsend haccept
  · rename_i hout
    rw [← Except.ok.inj h]
    exact .sendQueued (Bool.not_eq_true _ ▸ hout) hlength hsend

/-- What a `shutdown` that returns has done. -/
lemma shutdown_ok {t : Thread} {c : ConnId} (h : s.shutdown t c = .ok s') :
    s.Called t c (.shutdown t c) s' := by
  unfold shutdown at h
  split at h
  · rename_i hin
    rcases shutdownInLoop_ok h with ⟨hs, hstate⟩ | hshutdown
    · rw [hs]
      exact .shutdownIgnored hstate
    · exact .shutdownRun hin hshutdown
  · rename_i hout
    rw [← Except.ok.inj h]
    exact .shutdownQueued (Bool.not_eq_true _ ▸ hout)

/-- What a `removeConnection` that returns has done: in the acceptor's loop the removal, elsewhere
queued it. -/
lemma removeConnection_ok {c : ConnId} (h : s.removeConnection i c = .ok s') :
    s.Worked i (.closeCallback c) (.closeCallback i c) s' := by
  unfold removeConnection at h
  split at h
  · exact .removedHere (removeConnectionInLoop_ok h)
  · rw [← Except.ok.inj h]
    exact .removedQueued c

/-- **Every action that returns** does one of the things listed. -/
theorem exec_outcome {a : Action} (hallowed : s.allowed a) (h : s.exec a = .ok s') :
    s.Outcome a s' := by
  cases a with
  | start i =>
    obtain ⟨hi, hphase⟩ := hallowed
    obtain ⟨-, -, h⟩ := except_bind_eq_ok.mp h
    obtain ⟨-, -, h⟩ := except_bind_eq_ok.mp h
    rw [← Except.ok.inj h]
    exact .start hi hphase
  | swap i =>
    rw [← Except.ok.inj h]
    exact .swap hallowed
  | task i t => exact .work hallowed (runTask_ok h)
  | endTasks i =>
    obtain ⟨hphase, htodo, huser⟩ := hallowed
    rw [← Except.ok.inj h]
    exact .endTasks hphase htodo huser
  | poll i active =>
    obtain ⟨-, -, h⟩ := except_bind_eq_ok.mp h
    rw [← Except.ok.inj h]
    exact .poll hallowed
  | acceptorRead i connfd =>
    cases connfd with
    | none =>
      rw [← Except.ok.inj h]
      exact .work hallowed.1 (.nothing rfl (Or.inl rfl) (by simp))
    | some fd =>
      -- the next loop is another one, or the acceptor's own
      rcases newConnection_ok h with hs | ⟨s₁, hin, heffect, hs⟩
      · rw [hs]
        exact .acceptQueued hallowed.1
      · rw [hs]
        exact .acceptHere hallowed.1 hin heffect
  | handleRead i c data =>
    -- `read` failed, or it returned 0, or it returned data
    rcases handleRead_ok h with hs | hdown | ⟨bytes, s₁, hdata, hread, hs⟩
    · rw [hs]
      exact .work hallowed.1 (.nothing rfl (Or.inr (Or.inl ⟨c, rfl⟩)) (by simp))
    · exact .work hallowed.1 (.peerClosed hdown)
    · rw [hdata] at hallowed ⊢
      rw [hs]
      exact .work hallowed.1 (.read hread)
  | handleWrite i c written =>
    -- there is no write interest or `write` failed, or it left bytes, or it wrote all
    rcases handleWrite_ok h with hs | ⟨n, s₁, hwrite, hs | hs⟩
    · rw [hs]
      exact .work hallowed.1 (.nothing rfl (Or.inr (Or.inr (Or.inl ⟨c, rfl⟩))) (by simp))
    · rw [hs]
      exact .work hallowed.1 (.written hwrite)
    · rw [hs]
      exact .work hallowed.1 (.writtenAll hwrite)
  | userHandler i =>
    rw [← Except.ok.inj h]
    exact .work hallowed .userHandler
  | closeCallback i c => exact .work hallowed (removeConnection_ok h)
  | removeChannel i c => exact .work hallowed (.channelRemoved (removeChannel_ok h))
  | endHandlers i =>
    obtain ⟨hphase, htodo, huser⟩ := hallowed
    rw [← Except.ok.inj h]
    exact .endHandlers hphase htodo huser
  | userReturns i =>
    rw [← Except.ok.inj h]
    exact .userReturns hallowed
  | send t c msg => exact .call hallowed.1 (send_ok hallowed.2 h)
  | shutdown t c => exact .call hallowed (shutdown_ok h)
  | close t c =>
    rw [← Except.ok.inj h]
    exact .call hallowed .close
  | closeInNextLoop t c =>
    rw [← Except.ok.inj h]
    exact .call hallowed .closeInNextLoop
  | queueUser t i =>
    rw [← Except.ok.inj h]
    exact .queueUser
  | retrieve i c len =>
    obtain ⟨input, hretrieve, h⟩ := except_bind_eq_ok.mp h
    rw [← Except.ok.inj h]
    exact .retrieve (effect_setConn (.retrieve hretrieve) ⟨rfl, rfl⟩)
  | copyPtr t c =>
    rw [← Except.ok.inj h]
    exact .copyPtr hallowed
  | dropPtr c =>
    rw [← Except.ok.inj h]
    exact .dropPtr c

end

/-! ## A step of the server, seen by its connections -/

/-- The action runs `sendInLoop` of the connection. -/
def RunsSendInLoop (s : TcpServer) (a : Action) (c : ConnId) (t : Thread) (msg : Bytes) : Prop :=
  (a = .send t c msg ∧ (s.loop (s.conn c).loop_).isInLoopThread t.tid = true) ∨
    ∃ i, a = .task i (.sendInLoop c t msg)

/-- The action runs `shutdownInLoop` of the connection. -/
def RunsShutdownInLoop (s : TcpServer) (a : Action) (c : ConnId) : Prop :=
  (∃ t, a = .shutdown t c ∧ (s.loop (s.conn c).loop_).isInLoopThread t.tid = true) ∨
    ∃ i, a = .task i (.shutdownInLoop c)

/-- The events that the action can lead to, in a connection that stands at `conn`. -/
def Causes (s : TcpServer) (a : Action) (c : ConnId) (conn : TcpConnection) : ConnEvent → Prop
  | .send t msg => a = .send t c msg
  | .accept t msg => s.RunsSendInLoop a c t msg ∧ conn.state_ = (s.conn c).state_ ∧
      conn.output_ = (s.conn c).output_
  | .shutdown => s.RunsShutdownInLoop a c ∧ conn = s.conn c
  | .read data => (∃ i, a = .handleRead i c (some data)) ∧ conn = s.conn c
  | _ => True

/-- Every connection moves by events of its kind. -/
def Moves (s s' : TcpServer) (kind : ConnId → TcpConnection → ConnEvent → Prop) : Prop :=
  ∀ c, ConnSteps (kind c) (s.conn c) (s'.conn c)

section
variable {s s' : TcpServer} {i c : ℕ} {e : ConnEvent}
  {kind : ConnId → TcpConnection → ConnEvent → Prop}

/-- An event is about one connection. -/
lemma Effect.other (h : s.Effect c e s') {c' : ConnId} (hc : c' ≠ c) : s'.conn c' = s.conn c' := by
  obtain ⟨conn, p, -, -, hs'⟩ := h
  rw [hs', touch_conn_ne _ _ _ _ hc]

/-- The connection that an event is about takes a step of its own. -/
lemma Effect.step (h : s.Effect c e s') : ConnStep (s.conn c) e (s'.conn c) := by
  obtain ⟨conn, p, hstep, -, hs'⟩ := h
  rw [hs', touch_conn_self]
  exact hstep

/-- An event of the kind is a move of that kind. -/
lemma Effect.moves (h : s.Effect c e s') (hkind : kind c (s.conn c) e) : s.Moves s' kind := by
  intro c'
  by_cases hc : c' = c
  · rw [hc]
    exact h.step.steps hkind
  · rw [h.other hc]
    exact .refl

lemma Moves.trans {s'' : TcpServer} (h : s.Moves s' kind) (h' : s'.Moves s'' kind) :
    s.Moves s'' kind := fun c => (h c).trans (h' c)

lemma moves_refl : s.Moves s kind := fun _ => .refl

/-- How many connections there are, and what the next one will be called. -/
def counters (s : TcpServer) : ℕ × Bytes × ℤ := (s.created, s.name_, s.nextConnId_)

/-- A step in which no connection is made. -/
def Stays (s s' : TcpServer) (kind : ConnId → TcpConnection → ConnEvent → Prop) : Prop :=
  s'.counters = s.counters ∧ s.Moves s' kind

/-- An event of a connection makes no connection. -/
lemma Effect.counters_eq (h : s.Effect c e s') : s'.counters = s.counters := by
  obtain ⟨conn, p, -, -, hs'⟩ := h
  rw [hs']
  rfl

lemma Effect.created_eq (h : s.Effect c e s') : s'.created = s.created :=
  congrArg Prod.fst h.counters_eq

/-- An event is a step in which no connection is made. -/
lemma Effect.stays (h : s.Effect c e s') (hkind : kind c (s.conn c) e) : s.Stays s' kind :=
  ⟨h.counters_eq, h.moves hkind⟩

lemma callsDown.stays {rest : Work} (h : s.callsDown s' i c rest)
    (hkind : kind c (s.conn c) (.close i)) : s.Stays s' kind := by
  obtain ⟨s₁, heffect, hs'⟩ := h
  rw [hs']
  exact heffect.stays hkind

lemma channelRemoved.stays (h : s.channelRemoved s' c) : s.Stays s' kind := by
  obtain ⟨p, -, hs'⟩ := h
  refine ⟨by rw [hs']; rfl, fun c' => ?_⟩
  have hconn : s'.conn = s.conn := by
    rw [hs', touch, Function.update_eq_self]
  rw [hconn]
  exact .refl

lemma removed.stays (h : s.removed s' c) (hkind : kind c (s.conn c) .removal) :
    s.Stays s' kind := by
  obtain ⟨s₁, heffect, -, hs'⟩ := h
  rw [hs']
  exact heffect.stays hkind

/-- The work of a loop thread makes no connection and causes the events of its action. -/
lemma Worked.stays {w : Work} {a : Action} (h : s.Worked i w a s') : s.Stays s' (s.Causes a) := by
  have hsame : ∀ s₁ : TcpServer, s₁.counters = s.counters → s₁.conn = s.conn →
      s.Stays s₁ (s.Causes a) := by
    intro s₁ hcounters hconn
    exact ⟨hcounters, fun c => hconn ▸ .refl⟩
  cases h with
  | nothing _ _ _ => exact hsame _ rfl rfl
  | established heffect => exact heffect.stays trivial
  | destroyedDown hdown => exact hdown.stays trivial
  | destroyed hgone => exact hgone.stays
  | removedTask hremoved => exact hremoved.stays trivial
  | removedHere hremoved => exact hremoved.stays trivial
  | removedQueued c => exact hsame _ rfl rfl
  | channelRemoved hgone => exact hgone.stays
  | writeComplete c => exact hsame _ rfl rfl
  | accepted haccept => exact haccept.stays ⟨Or.inr ⟨i, rfl⟩, rfl, rfl⟩
  | shutdown hshutdown => exact hshutdown.stays ⟨Or.inr ⟨i, rfl⟩, rfl⟩
  | closed hdown => exact hdown.stays trivial
  | again c => exact hsame _ rfl rfl
  | peerClosed hdown => exact hdown.stays trivial
  | read hread => exact hread.stays ⟨⟨i, rfl⟩, rfl⟩
  | written hwrite => exact hwrite.stays trivial
  | writtenAll hwrite => exact hwrite.stays trivial
  | userTask => exact hsame _ rfl rfl
  | userHandler => exact hsame _ rfl rfl

/-- A call of a member makes no connection and causes the events of its action. -/
lemma Called.stays {t : Thread} {a : Action} (h : s.Called t c a s') :
    s.Stays s' (s.Causes a) := by
  cases h with
  | sendQueued _ _ hsend => exact hsend.stays rfl
  | sendIgnored _ hsend => exact hsend.stays rfl
  -- the message is on the record first, and the connection is as it was when it is accepted
  | @sendAccepted msg s₁ _ hin hsend haccept =>
    have hsame : (s₁.conn c).state_ = (s.conn c).state_ ∧
        (s₁.conn c).output_ = (s.conn c).output_ := by
      have := hsend.step
      generalize s₁.conn c = conn at this
      cases this
      exact ⟨rfl, rfl⟩
    have h₂ : s₁.Moves s' (s.Causes (.send t c msg)) := haccept.moves ⟨Or.inl ⟨rfl, hin⟩, hsame⟩
    exact ⟨haccept.counters_eq.trans hsend.counters_eq, (hsend.moves rfl).trans h₂⟩
  | shutdownQueued _ => exact ⟨rfl, moves_refl⟩
  | shutdownIgnored _ => exact ⟨rfl, moves_refl⟩
  | shutdownRun hin hshutdown => exact hshutdown.stays ⟨Or.inl ⟨t, rfl, hin⟩, rfl⟩
  | close => exact ⟨rfl, moves_refl⟩
  | closeInNextLoop => exact ⟨rfl, moves_refl⟩

/-- A step of the server is a number of events of each connection, perhaps behind the making of a
new one. -/
lemma Outcome.stays {a : Action} (h : s.Outcome a s') :
    s.Stays s' (s.Causes a) ∨
      ∃ i fd, a = .acceptorRead i (some fd) ∧ (s.withConnection fd).Stays s' (s.Causes a) := by
  cases h with
  | @work i w a s' hnext hworked => exact Or.inl hworked.stays
  | acceptQueued hnext => exact Or.inr ⟨_, _, rfl, rfl, moves_refl⟩
  | acceptHere hnext hin heffect => exact Or.inr ⟨_, _, rfl, heffect.stays trivial⟩
  | call hholds hcalled => exact Or.inl hcalled.stays
  | retrieve hretrieve => exact Or.inl (hretrieve.stays trivial)
  | _ => exact Or.inl ⟨rfl, moves_refl⟩

/-- Connections are not unmade: their number does not go down. -/
lemma Outcome.created_le {a : Action} (h : s.Outcome a s') : s.created ≤ s'.created := by
  rcases h.stays with ⟨hcounters, -⟩ | ⟨i, fd, -, hcounters, -⟩
  · exact le_of_eq (congrArg Prod.fst hcounters).symm
  · rw [show s'.created = s.created + 1 from congrArg Prod.fst hcounters]
    exact Nat.le_succ _

/-- A connection that exists moves by events of its own. -/
lemma Outcome.conn_steps {a : Action} (h : s.Outcome a s') (hc : c < s.created) :
    ConnSteps (s.Causes a c) (s.conn c) (s'.conn c) := by
  rcases h.stays with ⟨-, hmoves⟩ | ⟨i, fd, -, -, hmoves⟩
  · exact hmoves c
  · have hsteps := hmoves c
    simp only [withConnection, Function.update_of_ne (Nat.ne_of_lt hc)] at hsteps
    exact hsteps

/-- A connection that is made in a step moves from there. -/
lemma Outcome.new_steps {a : Action} (h : s.Outcome a s') (hc : ¬c < s.created)
    (hc' : c < s'.created) : ∃ fd, ConnSteps (s.Causes a c) (s.opened fd) (s'.conn c) := by
  rcases h.stays with ⟨hcounters, -⟩ | ⟨i, fd, -, hcounters, hmoves⟩
  · rw [show s'.created = s.created from congrArg Prod.fst hcounters] at hc'
    exact absurd hc' hc
  · rw [show s'.created = s.created + 1 from congrArg Prod.fst hcounters] at hc'
    have hlt : c < s.created + 1 := hc'
    -- the step makes one connection, and `c` was not there before
    have hnew : c = s.created := Nat.le_antisymm (Nat.lt_succ_iff.mp hlt) (Nat.le_of_not_lt hc)
    have hsteps := hmoves c
    simp only [hnew, withConnection, Function.update_self] at hsteps
    exact ⟨fd, hnew ▸ hsteps⟩

/-- **What the events of a connection preserve** holds of every connection of a run. -/
theorem conn_invariant {Q : TcpConnection → Prop} {P : TcpServer → Action → Prop}
    {size_ : ℕ} {name_ : Bytes} {callback : Bool} {as : List Action}
    (hrun : machine.Run (initial size_ name_ callback) as s)
    (hsteps : machine.AllSteps P (initial size_ name_ callback) as)
    (hopened : ∀ (s : TcpServer) fd, Q (s.opened fd))
    (hstep : ∀ (s : TcpServer) a c conn e conn', P s a → Q conn → s.Causes a c conn e →
      ConnStep conn e conn' → Q conn') : ∀ c < s.created, Q (s.conn c) := by
  refine hrun.invariant (I := fun s => ∀ c < s.created, Q (s.conn c)) hsteps
    (fun c hc => absurd hc (Nat.not_lt_zero c)) ?_
  intro s a s' hI hP hallowed hexec c hc
  have houtcome := exec_outcome hallowed hexec
  have hevent : ∀ conn e conn', Q conn → s.Causes a c conn e → ConnStep conn e conn' → Q conn' :=
    fun conn e conn' => hstep s a c conn e conn' hP
  -- a connection of before, or the one that the step makes
  by_cases hold : c < s.created
  · exact (houtcome.conn_steps hold).invariant (hI c hold) hevent
  · obtain ⟨fd, hsteps⟩ := houtcome.new_steps hold hc
    exact hsteps.invariant (hopened s fd) hevent

end

end TcpServer
end Miniduo
