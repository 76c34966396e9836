import Miniduo.LifecycleTheorems

/-!
# A connection that comes and goes

On a server without sub-loops everything runs in loop thread `0`. A connection that is accepted and
closed by its peer goes through all of `newConnection`, `handleClose`, `removeConnection` and
`connectDestroyed`, and leaves the server as it found it, one number further (`run_visit`).

A state is written `s.turn th loop`: the steps of the loop change `th` and `loop`, those of a
connection change `s`.
-/

namespace Miniduo
namespace TcpServer

/-- The server with loop thread `0` at another place and another state of its loop. -/
def turn (s : TcpServer) (th : LoopThread) (loop : EventLoop Task) : TcpServer :=
  { s with thread := Function.update s.thread 0 th, loop := Function.update s.loop 0 loop }

section
variable {s : TcpServer} {th th' : LoopThread} {loop : EventLoop Task} {c : ConnId}
  {arg : Option ConnId} {tasks : List Task} {todo : List Work}

/-- What a turn sets, and what it leaves. -/
@[simp] lemma turn_thread : (s.turn th loop).thread 0 = th := by simp [turn]
@[simp] lemma turn_loop : (s.turn th loop).loop 0 = loop := by simp [turn]
@[simp] lemma turn_conn : (s.turn th loop).conn = s.conn := rfl
@[simp] lemma turn_poller : (s.turn th loop).poller = s.poller := rfl
@[simp] lemma turn_connections : (s.turn th loop).connections_ = s.connections_ := rfl
@[simp] lemma turn_created : (s.turn th loop).created = s.created := rfl

@[simp] lemma turn_setThread : (s.turn th loop).setThread 0 th' = s.turn th' loop := by
  unfold turn setThread
  rw [Function.update_idem]

/-- A server is at its own place. -/
lemma turn_self (hthread : s.thread 0 = th) : s.turn th (s.loop 0) = s := by
  unfold turn
  rw [← hthread, Function.update_eq_self, Function.update_eq_self]

/-- A step of a connection and one of the loop are about different fields. -/
lemma turn_touch (conn : TcpConnection) (p : EPollPoller ConnId) :
    (s.turn th loop).touch c conn p = (s.touch c conn p).turn th loop := rfl

lemma turn_enterUser :
    (s.turn th loop).enterUser 0 arg = s.turn { th with user := some arg } loop := by
  unfold enterUser
  rw [turn_setThread, turn_thread]

lemma turn_pushWork (w : Work) :
    (s.turn th loop).pushWork 0 w = s.turn { th with todo := w :: th.todo } loop := by
  unfold pushWork
  rw [turn_setThread, turn_thread]

lemma turn_pop : (s.turn th loop).pop 0 = s.turn { th with todo := th.todo.tail } loop := by
  unfold pop
  rw [turn_setThread, turn_thread]

lemma turn_setPhase (phase : Phase) :
    (s.turn th loop).setPhase 0 phase = s.turn { th with phase := phase } loop := by
  unfold setPhase
  rw [turn_setThread, turn_thread]

lemma turn_queueInLoop (t : Task) :
    (s.turn th loop).queueInLoop 0 t = s.turn th (loop.queueInLoop t) := by
  simp only [turn, queueInLoop, Function.update_self, Function.update_idem]

/-- The queue of the loop becomes the batch of the thread. -/
lemma turn_swap : (s.turn th loop).swap 0 =
    s.turn { th with
        phase := .tasks
        tasks := loop.pendingTasks_
        todo := loop.pendingTasks_.map .task }
      { loop with pendingTasks_ := [] } := by
  simp only [swap, EventLoop.swapTasks, turn, setThread, Function.update_self, Function.update_idem]

/-! ## The steps of the loop -/

/-- A callback returns. -/
lemma run_userReturns {phase : Phase} :
    machine.Run (s.turn ⟨phase, tasks, todo, some arg⟩ loop) [.userReturns 0]
      (s.turn ⟨phase, tasks, todo, none⟩ loop) := by
  refine Machine.run_singleton_iff.mpr ⟨by simp [machine, allowed], ?_⟩
  show Except.ok ((s.turn ⟨phase, tasks, todo, some arg⟩ loop).setThread 0 _) = _
  rw [turn_setThread, turn_thread]

/-- The acceptor finds no further connection. -/
lemma run_noConnection :
    machine.Run (s.turn ⟨.handlers, [], .acceptorRead :: todo, none⟩ loop) [.acceptorRead 0 none]
      (s.turn ⟨.handlers, [], todo, none⟩ loop) :=
  Machine.run_singleton_iff.mpr ⟨by simp [machine, allowed, Next], congrArg Except.ok turn_pop⟩

/-- The handlers have run, and the queue is taken. -/
lemma run_to_tasks (s : TcpServer) (loop : EventLoop Task) :
    machine.Run (s.turn { phase := .handlers } loop) [.endHandlers 0, .swap 0]
      (s.turn ⟨.tasks, loop.pendingTasks_, loop.pendingTasks_.map .task, none⟩
        { loop with pendingTasks_ := [] }) := by
  have hend : machine.exec (s.turn { phase := .handlers } loop) (.endHandlers 0) =
      .ok (s.turn { phase := .top } loop) := congrArg Except.ok (turn_setPhase .top)
  have hswap : machine.exec (s.turn { phase := .top } loop) (.swap 0) = .ok _ :=
    congrArg Except.ok turn_swap
  exact .cons (by simp [machine, allowed]) hend (.cons (by simp [machine, allowed]) hswap (.nil _))

/-- The batch has run. -/
lemma run_to_poll :
    machine.Run (s.turn ⟨.tasks, tasks, [], none⟩ loop) [.endTasks 0]
      (s.turn { phase := .polling } loop) := by
  refine Machine.run_singleton_iff.mpr ⟨by simp [machine, allowed], ?_⟩
  show Except.ok ((s.turn ⟨.tasks, tasks, [], none⟩ loop).setThread 0 _) = _
  rw [turn_setThread, turn_thread]

/-- `poll` reports one channel. -/
lemma run_poll (loop : EventLoop Task) {r : Ready} (hready : s.ReadyIn 0 r)
    (hregistered : s.Registered 0 r) :
    machine.Run (s.turn { phase := .polling } loop) [.poll 0 [r]]
      (s.turn { phase := .handlers, todo := r.work } loop) := by
  refine Machine.run_singleton_iff.mpr ⟨⟨by rw [turn_thread], List.nodup_singleton r, ?_, ?_⟩, ?_⟩
  · cases r <;> simp
  · intro r' hr'
    rw [List.mem_singleton.mp hr']
    exact hready
  · have hall : ∀ r' ∈ [r], (s.turn { phase := .polling } loop).Registered 0 r' := by
      intro r' hr'
      rw [List.mem_singleton.mp hr']
      exact hregistered
    show (s.turn { phase := .polling } loop).poll 0 [r] = _
    rw [poll, assertThat_pos hall, except_ok_bind, turn_setThread, turn_thread,
      List.flatMap_singleton]
    rfl

/-! ## The steps of a connection -/

/-- The server with a new connection that the acceptor's own loop has established. -/
def accepted (s : TcpServer) (fd : ℕ) : TcpServer :=
  (s.withConnection fd).touch s.created
    { s.opened fd with
      state_ := .kConnected
      connChannel_ := ⟨fd, Channel.kReadEvent⟩
      log.up := [0] }
    ((s.poller 0).setEntry fd (some (s.created, .ADDED), some (s.created, Channel.kReadEvent))
      [⟨.ADD, fd, s.created, Channel.kReadEvent⟩])

/-- A connection that has been established. -/
lemma accepted_conn (s : TcpServer) (fd : ℕ) : (s.accepted fd).conn s.created = { s.opened fd with
    state_ := .kConnected
    connChannel_ := ⟨fd, Channel.kReadEvent⟩
    log.up := [0] } := touch_conn_self ..

/-- Without sub-loops a new connection is on the acceptor's loop. -/
lemma withConnection_loop {fd : ℕ} (hsize : s.size_ = 0) :
    ((s.withConnection fd).conn s.created).loop_ = 0 :=
  (congrArg TcpConnection.loop_ (Function.update_self ..)).trans (if_pos hsize)

/-- What happens to the new connection replaces what establishing has made of it. -/
lemma accepted_touch (fd : ℕ) (conn : TcpConnection) (p : EPollPoller ConnId) :
    (s.accepted fd).touch s.created conn p = (s.withConnection fd).touch s.created conn p := by
  refine touch_touch _ _ _ _ ?_
  rw [show (s.withConnection fd).conn s.created = s.opened fd from Function.update_self ..]

/-- What establishing has asked of the kernel. -/
lemma accepted_poller (hsize : s.size_ = 0) (fd : ℕ) : (s.accepted fd).poller 0 =
    (s.poller 0).setEntry fd (some (s.created, .ADDED), some (s.created, Channel.kReadEvent))
      [⟨.ADD, fd, s.created, Channel.kReadEvent⟩] := by
  have htouch := touch_poller_self (s.withConnection fd) s.created
    ((s.accepted fd).conn s.created) ((s.poller 0).setEntry fd
      (some (s.created, .ADDED), some (s.created, Channel.kReadEvent))
      [⟨.ADD, fd, s.created, Channel.kReadEvent⟩])
  rw [withConnection_loop hsize, accepted_conn] at htouch
  exact htouch

/-- A connection is accepted and established in the acceptor's own loop. -/
lemma run_accept {fd : ℕ} (hsize : s.size_ = 0) (hin : loop.isInLoopThread 0 = true)
    (hentry : (s.poller 0).entry fd = (none, none))
    (hfresh : ∀ c < s.created, (s.turn ⟨.handlers, [], .acceptorRead :: todo, none⟩ loop).Alive c →
      (s.conn c).connChannel_.fd_ ≠ fd) :
    machine.Run (s.turn ⟨.handlers, [], .acceptorRead :: todo, none⟩ loop)
      [.acceptorRead 0 (some fd)]
      ((s.accepted fd).turn ⟨.handlers, [], .acceptorRead :: todo, some (some s.created)⟩
        loop) := by
  have hnext : s.nextLoop = 0 := if_pos hsize
  have hconn : (s.withConnection fd).conn s.created = s.opened fd := Function.update_self ..
  have hloop : (s.opened fd).loop_ = 0 := hnext
  have hchannel : ({ fd_ := fd } : Channel).enableReading true = ⟨fd, Channel.kReadEvent⟩ :=
    congrArg (Channel.mk fd)
      (show (0 : BitVec 32) ||| Channel.kReadEvent = Channel.kReadEvent from by decide)
  refine Machine.run_singleton_iff.mpr ⟨⟨by simp [Next], by simpa using hfresh⟩, ?_⟩
  show (s.turn ⟨.handlers, [], .acceptorRead :: todo, none⟩ loop).newConnection 0 fd = _
  rw [newConnection_eq, show (s.turn _ loop).nextLoop = 0 from hnext,
    assertInLoopThread_eq (by simpa using hin), except_ok_bind, if_pos (by simpa using hin)]
  show ((s.withConnection fd).turn ⟨.handlers, [], .acceptorRead :: todo, none⟩
    loop).connectEstablished 0 s.created = _
  rw [connectEstablished_eq]
  · rw [turn_conn, hconn, turn_touch, turn_enterUser, turn_poller, hloop]
    show Except.ok (((s.withConnection fd).touch s.created { s.opened fd with
      state_ := .kConnected
      connChannel_ := ({ fd_ := fd } : Channel).enableReading true
      log.up := [0] }
      ((s.poller 0).setEntry fd (some (s.created, .ADDED),
        some (s.created, (({ fd_ := fd } : Channel).enableReading true).events_))
        [⟨.ADD, fd, s.created, (({ fd_ := fd } : Channel).enableReading true).events_⟩])).turn
        _ _) = _
    rw [hchannel]
    rfl
  · simpa [hconn, hloop] using hin
  · rw [turn_conn, hconn]
    rfl
  · rw [turn_conn, hconn]
    rfl
  · rw [turn_conn, hconn, hloop]
    exact hentry

/-- The peer closes a connection, and the read handler calls back. -/
lemma run_hangUp (hin : loop.isInLoopThread 0 = true) (hloop : (s.conn c).loop_ = 0)
    (hstate : (s.conn c).state_ = .kConnected) {events : BitVec 32}
    (hentry : (s.poller 0).entry (s.conn c).connChannel_.fd_ =
      (some (c, .ADDED), some (c, events))) :
    machine.Run (s.turn ⟨.handlers, [], [.handleRead c], none⟩ loop) [.handleRead 0 c (some [])]
      ((s.touch c { s.conn c with
          state_ := .kDisconnected
          connChannel_ := (s.conn c).connChannel_.disableAll
          log.down := (s.conn c).log.down ++ [0] }
        ((s.poller 0).setEntry (s.conn c).connChannel_.fd_ (some (c, .DELETED), none)
          [⟨.DEL, (s.conn c).connChannel_.fd_, c,
            (s.conn c).connChannel_.disableAll.events_⟩])).turn
        ⟨.handlers, [], [.closeCallback c], some (some c)⟩ loop) := by
  refine Machine.run_singleton_iff.mpr ⟨⟨by simp [Next], by simp⟩, ?_⟩
  show ((s.turn ⟨.handlers, [], [.handleRead c], none⟩ loop).pop 0).handleClose 0 c = _
  rw [turn_pop, handleClose_eq (s := s.turn _ loop) (by simpa [hloop] using hin) (Or.inl hstate)
    (by rw [turn_conn, hloop]; exact hentry), turn_conn, hloop, turn_poller, turn_touch,
    turn_pushWork, turn_enterUser]
  rfl

/-- The server after the removal of a connection, without the task for its loop. -/
def withoutConnection (s : TcpServer) (c : ConnId) : TcpServer :=
  (s.setConn c { s.conn c with log.removals := (s.conn c).log.removals + 1 }).unmap (s.conn c).name_

/-- The removal is about the name, and what happens to the connection is not. -/
lemma withoutConnection_touch (conn : TcpConnection) (p : EPollPoller ConnId) :
    (s.withoutConnection c).touch c conn p = (s.touch c conn p).unmap (s.conn c).name_ := by
  simp only [withoutConnection, unmap, setConn, touch, Function.update_self, Function.update_idem]

/-- The close callback removes the connection and queues `connectDestroyed`. -/
lemma run_remove (hin : loop.isInLoopThread 0 = true) (hloop : (s.conn c).loop_ = 0)
    (hmapped : s.connections_ (s.conn c).name_ ≠ none) :
    machine.Run (s.turn ⟨.handlers, [], [.closeCallback c], none⟩ loop) [.closeCallback 0 c]
      ((s.withoutConnection c).turn { phase := .handlers }
        (loop.queueInLoop (.connectDestroyed c))) := by
  refine Machine.run_singleton_iff.mpr ⟨by simp [machine, allowed, Next], ?_⟩
  show ((s.turn ⟨.handlers, [], [.closeCallback c], none⟩ loop).pop 0).removeConnection 0 c = _
  rw [turn_pop, removeConnection, if_pos (by simpa using hin),
    removeConnectionInLoop_eq (s := s.turn _ loop) (by simpa using hin) hmapped, turn_conn, hloop,
    ← turn_queueInLoop]
  rfl

/-- The channel of a connection that is closed leaves the poller. -/
lemma run_destroy (loop : EventLoop Task) (tasks : List Task)
    (hin : loop.isInLoopThread 0 = true) (hloop : (s.conn c).loop_ = 0)
    (hstate : (s.conn c).state_ = .kDisconnected)
    (hmask : (s.conn c).connChannel_.events_ = Channel.kNoneEvent)
    (hentry : (s.poller 0).entry (s.conn c).connChannel_.fd_ = (some (c, .DELETED), none)) :
    machine.Run (s.turn ⟨.tasks, tasks, [.task (.connectDestroyed c)], none⟩ loop)
      [.task 0 (.connectDestroyed c)]
      ((s.touch c (s.conn c)
        ((s.poller 0).setEntry (s.conn c).connChannel_.fd_ (none, none) [])).turn
        ⟨.tasks, tasks, [], none⟩ loop) := by
  refine Machine.run_singleton_iff.mpr ⟨by simp [machine, allowed, Next], ?_⟩
  show ((s.turn ⟨.tasks, tasks, [.task (.connectDestroyed c)], none⟩ loop).pop 0).connectDestroyed
    0 c = _
  rw [turn_pop, connectDestroyed_eq (s := s.turn _ loop) (by simpa [hloop] using hin) hstate hmask
    (by rw [turn_conn, hloop]; exact hentry), turn_conn, hloop, turn_poller, turn_touch]
  rfl

/-! ## A visit -/

/-- From the connection callback to the next `poll`, which reports the channel of the connection. -/
lemma run_to_read (arg : Option ConnId) (hpending : loop.pendingTasks_ = [])
    (hentry : (s.poller 0).entry (s.conn c).connChannel_.fd_ =
      (some (c, .ADDED), some (c, Channel.kReadEvent))) :
    machine.Run (s.turn ⟨.handlers, [], [.acceptorRead], some arg⟩ loop)
      [.userReturns 0, .acceptorRead 0 none, .endHandlers 0, .swap 0, .endTasks 0,
        .poll 0 [.conn c true false]]
      (s.turn ⟨.handlers, [], [.handleRead c], none⟩ loop) := by
  obtain ⟨hchannel, hepoll⟩ := Prod.mk.inj hentry
  have hready : s.ReadyIn 0 (.conn c true false) := by
    unfold ReadyIn
    simp only [hepoll]
    exact ⟨trivial, fun _ => by decide, fun h => by cases h⟩
  have hregistered : s.Registered 0 (.conn c true false) := by
    unfold Registered
    simp only [hchannel, Option.map_some]
  have htasks := run_to_tasks s loop
  rw [hpending, show ({ loop with pendingTasks_ := [] } : EventLoop Task) = loop from by
    rw [← hpending]] at htasks
  exact run_userReturns.append (run_noConnection.append (htasks.append (run_to_poll.append
    (run_poll loop hready hregistered))))

/-- From the callback on the way down to the next `poll`. -/
lemma run_to_end (arg : Option ConnId) (hin : loop.isInLoopThread 0 = true)
    (hpending : loop.pendingTasks_ = []) (hloop : (s.conn c).loop_ = 0)
    (hstate : (s.conn c).state_ = .kDisconnected)
    (hmask : (s.conn c).connChannel_.events_ = Channel.kNoneEvent)
    (hmapped : s.connections_ (s.conn c).name_ ≠ none)
    (hentry : (s.poller 0).entry (s.conn c).connChannel_.fd_ = (some (c, .DELETED), none)) :
    ∃ conn loop', machine.Run (s.turn ⟨.handlers, [], [.closeCallback c], some arg⟩ loop)
      [.userReturns 0, .closeCallback 0 c, .endHandlers 0, .swap 0, .task 0 (.connectDestroyed c),
        .endTasks 0]
      (((s.touch c conn ((s.poller 0).setEntry (s.conn c).connChannel_.fd_ (none, none) [])).unmap
        (s.conn c).name_).turn { phase := .polling } loop') ∧
      loop'.isInLoopThread 0 = true ∧ loop'.pendingTasks_ = [] := by
  have hconn : (s.withoutConnection c).conn c =
    { s.conn c with log.removals := (s.conn c).log.removals + 1 } := Function.update_self ..
  have hqueued : (loop.queueInLoop (.connectDestroyed c)).pendingTasks_ =
      [.connectDestroyed c] := by
    show loop.pendingTasks_ ++ [.connectDestroyed c] = _
    rw [hpending, List.nil_append]
  have hremoved := run_remove hin hloop hmapped
  have htasks := run_to_tasks (s.withoutConnection c) (loop.queueInLoop (.connectDestroyed c))
  rw [hqueued] at htasks
  have hdestroyed := run_destroy (s := s.withoutConnection c) (c := c)
    { loop.queueInLoop (.connectDestroyed c) with pendingTasks_ := [] } [.connectDestroyed c] hin
    (by rw [hconn]; exact hloop) (by rw [hconn]; exact hstate) (by rw [hconn]; exact hmask)
    (by rw [hconn]; exact hentry)
  rw [withoutConnection_touch, hconn] at hdestroyed
  exact ⟨_, _, run_userReturns.append (hremoved.append (htasks.append
    (hdestroyed.append run_to_poll))), hin, rfl⟩

/-- From the end of the stream to the next `poll`: the connection is closed, removed and
destroyed. -/
lemma run_leave (hin : loop.isInLoopThread 0 = true) (hpending : loop.pendingTasks_ = [])
    (hloop : (s.conn c).loop_ = 0) (hstate : (s.conn c).state_ = .kConnected)
    (hmapped : s.connections_ (s.conn c).name_ ≠ none) {events : BitVec 32}
    (hentry : (s.poller 0).entry (s.conn c).connChannel_.fd_ =
      (some (c, .ADDED), some (c, events))) :
    ∃ conn ctls loop', machine.Run (s.turn ⟨.handlers, [], [.handleRead c], none⟩ loop)
      [.handleRead 0 c (some []), .userReturns 0, .closeCallback 0 c, .endHandlers 0, .swap 0,
        .task 0 (.connectDestroyed c), .endTasks 0]
      (((s.touch c conn ((s.poller 0).setEntry (s.conn c).connChannel_.fd_ (none, none) ctls)).unmap
        (s.conn c).name_).turn { phase := .polling } loop') ∧
      loop'.isInLoopThread 0 = true ∧ loop'.pendingTasks_ = [] := by
  have hclosed := run_hangUp hin hloop hstate hentry
  generalize hconn : ({ s.conn c with
      state_ := .kDisconnected
      connChannel_ := (s.conn c).connChannel_.disableAll
      log.down := (s.conn c).log.down ++ [0] } : TcpConnection) = conn at hclosed
  generalize ([⟨.DEL, (s.conn c).connChannel_.fd_, c,
    (s.conn c).connChannel_.disableAll.events_⟩] : List (EpollCtl ConnId)) = ctls at hclosed
  have hpoller := touch_poller_self s c conn
    ((s.poller 0).setEntry (s.conn c).connChannel_.fd_ (some (c, .DELETED), none) ctls)
  rw [hloop] at hpoller
  obtain ⟨conn', loop', hrun, hend⟩ := run_to_end (some c) hin hpending
    (s := s.touch c conn
      ((s.poller 0).setEntry (s.conn c).connChannel_.fd_ (some (c, .DELETED), none) ctls)) (c := c)
    (by rw [touch_conn_self, ← hconn]; exact hloop) (by rw [touch_conn_self, ← hconn])
    (by rw [touch_conn_self, ← hconn]; rfl)
    (by rw [touch_conn_self, ← hconn]; exact hmapped)
    (by
      rw [touch_conn_self, hpoller, ← hconn]
      exact EPollPoller.entry_setEntry_self ..)
  have hname : conn.name_ = (s.conn c).name_ := by rw [← hconn]
  have hfd : conn.connChannel_.fd_ = (s.conn c).connChannel_.fd_ := by rw [← hconn]; rfl
  rw [touch_conn_self, hpoller, hname, hfd, EPollPoller.setEntry_setEntry,
    touch_touch _ _ _ _ (by rw [← hconn])] at hrun
  exact ⟨conn', ctls ++ [], loop', hclosed.append hrun, hend⟩

/-- The actions of a visit: connection `c` is accepted on a descriptor and closed by its peer. -/
def visit (c : ConnId) (fd : ℕ) : List Action :=
  [.poll 0 [.acceptor], .acceptorRead 0 (some fd), .userReturns 0, .acceptorRead 0 none,
    .endHandlers 0, .swap 0, .endTasks 0, .poll 0 [.conn c true false], .handleRead 0 c (some []),
    .userReturns 0, .closeCallback 0 c, .endHandlers 0, .swap 0, .task 0 (.connectDestroyed c),
    .endTasks 0]

/-- The server after a visit, with what is left of the connection and the calls of `epoll_ctl` made
for it. -/
def visited (s : TcpServer) (fd : ℕ) (conn : TcpConnection) (ctls : List (EpollCtl ConnId)) :
    TcpServer :=
  ((s.withConnection fd).touch s.created conn ((s.poller 0).setEntry fd (none, none) ctls)).unmap
    (connName s.name_ s.nextConnId_)

/-- No connection that is alive when the acceptor runs has the descriptor. -/
def Unused (s : TcpServer) (fd : ℕ) : Prop :=
  ∀ c < s.created, (s.turn { phase := .handlers, todo := [.acceptorRead] } (s.loop 0)).Alive c →
    (s.conn c).connChannel_.fd_ ≠ fd

/-- `poll` reports the acceptor, and a connection is made. -/
lemma run_to_accepted {fd : ℕ} (hsize : s.size_ = 0) (hthread : s.thread 0 = { phase := .polling })
    (hin : (s.loop 0).isInLoopThread 0 = true) (hentry : (s.poller 0).entry fd = (none, none))
    (hunused : s.Unused fd) :
    ∃ s₁, machine.Run s [.poll 0 [.acceptor]] s₁ ∧
      s₁.connections_ = s.connections_ ∧ s₁.name_ = s.name_ ∧ s₁.nextConnId_ = s.nextConnId_ ∧
      machine.Run s₁ [.acceptorRead 0 (some fd)]
        ((s.accepted fd).turn ⟨.handlers, [], [.acceptorRead], some (some s.created)⟩
          (s.loop 0)) := by
  have hpoll := run_poll (s.loop 0) (show s.ReadyIn 0 .acceptor from rfl) trivial
  rw [turn_self hthread] at hpoll
  exact ⟨_, hpoll, rfl, rfl, rfl, run_accept hsize hin hentry hunused⟩

/-- **A visit** can be made to a server without sub-loops whenever it waits in `poll` with nothing
queued. It leaves nothing behind but the number that it took. -/
theorem run_visit {fd : ℕ} (hsize : s.size_ = 0) (hthread : s.thread 0 = { phase := .polling })
    (hin : (s.loop 0).isInLoopThread 0 = true) (hpending : (s.loop 0).pendingTasks_ = [])
    (hentry : (s.poller 0).entry fd = (none, none)) (hunused : s.Unused fd) :
    ∃ conn ctls loop', machine.Run s (visit s.created fd)
        ((s.visited fd conn ctls).turn { phase := .polling } loop') ∧
      loop'.isInLoopThread 0 = true ∧ loop'.pendingTasks_ = [] := by
  obtain ⟨s₁, hpoll, -, -, -, haccept⟩ := run_to_accepted hsize hthread hin hentry hunused
  have hloop : ((s.accepted fd).conn s.created).loop_ = 0 := by
    rw [accepted_conn]
    exact if_pos hsize
  have hadded : ((s.accepted fd).poller 0).entry ((s.accepted fd).conn s.created).connChannel_.fd_ =
      (some (s.created, .ADDED), some (s.created, Channel.kReadEvent)) := by
    rw [accepted_conn, accepted_poller hsize]
    exact EPollPoller.entry_setEntry_self ..
  have hmapped : (s.accepted fd).connections_ ((s.accepted fd).conn s.created).name_ ≠ none := by
    rw [accepted_conn]
    exact ne_of_eq_of_ne (Function.update_self ..) (Option.some_ne_none _)
  have hread := run_to_read (some s.created) hpending hadded
  obtain ⟨conn, ctls, loop', hleave, hend⟩ :=
    run_leave hin hpending hloop (by rw [accepted_conn]) hmapped hadded
  rw [accepted_conn, accepted_poller hsize, EPollPoller.setEntry_setEntry, accepted_touch] at hleave
  exact ⟨conn, _, loop', (hpoll.append haccept).append (hread.append hleave), hend⟩

end

end TcpServer
end Miniduo
