import Miniduo.TcpConnection
import Miniduo.Text

/-!
# `TcpServer`

The server of `conn.h` and `conn.cpp` on one acceptor loop and any number of I/O loops, as a machine.
Its actions are the steps of the loop threads and the calls that threads make in user code. No loop
is asked to quit, and the server is not destroyed.
-/

namespace Miniduo
namespace TcpServer

/-! ## Members of `TcpServer`, run by loop thread `i` -/

/-- `EventLoops::allocLoop`; without sub-loops it is `EventLoop::allocLoop`. -/
def allocLoop (s : TcpServer) : ℕ × TcpServer :=
  if s.size_ = 0 then (0, s)
  else (s.next_ + 1, { s with next_ := (s.next_ + 1) % s.size_ })

/-- The name of the connection with a number. -/
def connName (name_ : Bytes) (id : ℤ) : Bytes := name_ ++ 35 :: decimalInt id

def newConnection (s : TcpServer) (i : ℕ) (sockfd : ℕ) : Except Fault TcpServer := do
  s.assertInLoopThread 0 i
  let name := connName s.name_ s.nextConnId_
  let (ioLoop, s) := { s with nextConnId_ := toInt (s.nextConnId_ + 1) : TcpServer }.allocLoop
  let c := s.created
  let s := { s.setConn c { loop_ := ioLoop, name_ := name, connChannel_ := { fd_ := sockfd } } with
    created := s.created + 1
    connections_ := Function.update s.connections_ name (some c) }
  if (s.loop ioLoop).isInLoopThread i then s.connectEstablished i c
  else return s.queueInLoop ioLoop (.connectEstablished c)

def removeConnectionInLoop (s : TcpServer) (i : ℕ) (c : ConnId) : Except Fault TcpServer := do
  s.assertInLoopThread 0 i
  let conn := s.conn c
  assertThat (s.connections_ conn.name_ ≠ none)
  let s := { s.setConn c { conn with log.removals := conn.log.removals + 1 } with
    connections_ := Function.update s.connections_ conn.name_ none }
  return s.queueInLoop conn.loop_ (.connectDestroyed c)

/-- `removeConnection`, the close callback of every connection. -/
def removeConnection (s : TcpServer) (i : ℕ) (c : ConnId) : Except Fault TcpServer :=
  if (s.loop 0).isInLoopThread i then s.removeConnectionInLoop i c
  else return s.queueInLoop 0 (.removeConnectionInLoop c)

/-- Loop thread `i` runs a task. -/
def runTask (s : TcpServer) (i : ℕ) : Task → Except Fault TcpServer
  | .connectEstablished c => s.connectEstablished i c
  | .connectDestroyed c => s.connectDestroyed i c
  | .removeConnectionInLoop c => s.removeConnectionInLoop i c
  | .writeCompleteCallback c => return s.enterUser i (some c)
  | .sendInLoop c sender msg => s.sendInLoop i c sender msg
  | .shutdownInLoop c => s.shutdownInLoop i c
  | .closeInLoop c => s.closeInLoop i c
  | .closeInNextLoop c => return s.queueInLoop (s.conn c).loop_ (.closeInLoop c)
  | .user => return s.enterUser i none

/-! ## Pointers to a connection -/

/-- A pointer to the connection is in `connections_`, in a task that is queued or belongs to an
unfinished batch, in an argument of a running callback, or kept by user code. -/
def Alive (s : TcpServer) (c : ConnId) : Prop :=
  s.connections_ (s.conn c).name_ = some c ∨ c ∈ s.handles ∨
    ∃ i ≤ s.size_, (s.thread i).user = some (some c) ∨
      ∃ task ∈ (s.thread i).tasks ++ (s.loop i).pendingTasks_, task.owner = some c

instance (s : TcpServer) (c : ConnId) : Decidable (s.Alive c) := by
  unfold Alive
  have : Decidable (∃ i ≤ s.size_, (s.thread i).user = some (some c) ∨
      ∃ task ∈ (s.thread i).tasks ++ (s.loop i).pendingTasks_, task.owner = some c) :=
    decidable_of_iff (∃ i < s.size_ + 1, (s.thread i).user = some (some c) ∨
      ∃ task ∈ (s.thread i).tasks ++ (s.loop i).pendingTasks_, task.owner = some c)
      (by simp only [Nat.lt_succ_iff])
  infer_instance

/-- The connection that a running callback of the thread has as its argument. -/
def userArg (s : TcpServer) : Thread → Option ConnId
  | .loop i => (s.thread i).user.join
  | .other _ => none

/-- The thread is in user code. -/
def InUser (s : TcpServer) : Thread → Prop
  | .loop i => i ≤ s.size_ ∧ (s.thread i).user ≠ none
  | .other _ => True

/-- The thread is in user code and has a pointer to the connection. -/
def Holds (s : TcpServer) (t : Thread) (c : ConnId) : Prop :=
  s.InUser t ∧ (c ∈ s.handles ∨ s.userArg t = some c)

/-! ## Actions -/

/-- A channel that `poll` reports as active: that of a connection, with the callbacks that
`handleEvent` will call, the acceptor's, or one whose handler runs user code only. -/
inductive Ready
  | conn (c : ConnId) (read write : Bool)
  | acceptor
  | other
deriving Repr, DecidableEq

def Ready.work : Ready → List Work
  | .conn c read write =>
    (if read then [.handleRead c] else []) ++ (if write then [.handleWrite c] else [])
  | .acceptor => [.acceptorRead]
  | .other => [.userHandler]

/-- The steps of the loop threads, with what their system calls return, and the calls of threads in
user code. -/
inductive Action
  /-- Thread `i` enters `loop()`. -/
  | start (i : ℕ)
  /-- `doPendingTasks` takes the queue. -/
  | swap (i : ℕ)
  | task (i : ℕ) (t : Task)
  /-- `doPendingTasks` returns and destroys the batch. -/
  | endTasks (i : ℕ)
  | poll (i : ℕ) (active : List Ready)
  /-- One round of `Acceptor::handleRead`; `accept` returns a descriptor or -1. -/
  | acceptorRead (i : ℕ) (connfd : Option ℕ)
  | handleRead (i : ℕ) (c : ConnId) (data : Option Bytes)
  | handleWrite (i : ℕ) (c : ConnId) (written : Option ℕ)
  | userHandler (i : ℕ)
  | closeCallback (i : ℕ) (c : ConnId)
  | removeChannel (i : ℕ) (c : ConnId)
  /-- All handlers have returned. -/
  | endHandlers (i : ℕ)
  /-- User code returns to loop thread `i`. -/
  | userReturns (i : ℕ)
  | send (t : Thread) (c : ConnId) (msg : Bytes)
  | shutdown (t : Thread) (c : ConnId)
  | close (t : Thread) (c : ConnId)
  | closeInNextLoop (t : Thread) (c : ConnId)
  /-- User code queues a task of its own in loop `i`. -/
  | queueUser (t : Thread) (i : ℕ)
  /-- A message callback takes bytes out of `input_`. -/
  | retrieve (i : ℕ) (c : ConnId) (len : ℕ)
  /-- User code stores a pointer that the thread has, or releases a stored one. -/
  | copyPtr (t : Thread) (c : ConnId)
  | dropPtr (c : ConnId)
deriving Repr, DecidableEq

/-- Loop thread `i` is not in user code, and this is the next thing it does. -/
def Next (s : TcpServer) (i : ℕ) (w : Work) : Prop :=
  (s.thread i).user = none ∧ (s.thread i).todo.head? = some w

/-- What epoll may report for a channel: events that the kernel was asked for. -/
def ReadyIn (s : TcpServer) (i : ℕ) : Ready → Prop
  | .conn c read write =>
    match (s.poller i).epoll (s.conn c).connChannel_.fd_ with
    | some (ptr, events) => ptr = c ∧ (read = true → events &&& Channel.kReadEvent ≠ 0) ∧
        (write = true → events &&& Channel.kWriteEvent ≠ 0)
    | none => False
  | .acceptor => i = 0
  | .other => True

def allowed (s : TcpServer) : Action → Prop
  | .start i => i ≤ s.size_ ∧ (s.thread i).phase = .notStarted
  | .swap i => (s.thread i).phase = .top
  | .task i t => s.Next i (.task t)
  | .endTasks i =>
    (s.thread i).phase = .tasks ∧ (s.thread i).todo = [] ∧ (s.thread i).user = none
  | .poll i active => (s.thread i).phase = .polling ∧ active.Nodup ∧
      (active.filterMap fun r => match r with | .conn c _ _ => some c | _ => none).Nodup ∧
      ∀ r ∈ active, s.ReadyIn i r
  | .acceptorRead i connfd => s.Next i .acceptorRead ∧
      ∀ fd ∈ connfd, ∀ c < s.created, s.Alive c → (s.conn c).connChannel_.fd_ ≠ fd
  | .handleRead i c data => s.Next i (.handleRead c) ∧
      ∀ bytes ∈ data, bytes.length ≤ (s.conn c).input_.writableBytes + Buffer.extraSize
  | .handleWrite i c written => s.Next i (.handleWrite c) ∧
      ∀ n ∈ written, n ≤ (s.conn c).output_.readableBytes
  | .userHandler i => s.Next i .userHandler
  | .closeCallback i c => s.Next i (.closeCallback c)
  | .removeChannel i c => s.Next i (.removeChannel c)
  | .endHandlers i =>
    (s.thread i).phase = .handlers ∧ (s.thread i).todo = [] ∧ (s.thread i).user = none
  | .userReturns i => (s.thread i).user ≠ none
  | .send t c msg => s.Holds t c ∧ msg.length ≤ maxSize
  | .shutdown t c | .close t c | .closeInNextLoop t c | .copyPtr t c => s.Holds t c
  | .queueUser t i => s.InUser t ∧ i ≤ s.size_
  | .retrieve i c len =>
    (s.thread i).user = some (some c) ∧ len ≤ (s.conn c).input_.readableBytes
  | .dropPtr c => c ∈ s.handles

/-- Loop thread `i` takes the next thing off its list. -/
def pop (s : TcpServer) (i : ℕ) : TcpServer :=
  s.setThread i { s.thread i with todo := (s.thread i).todo.tail }

def setPhase (s : TcpServer) (i : ℕ) (phase : Phase) : TcpServer :=
  s.setThread i { s.thread i with phase := phase }

/-- `loop()` up to the `while` loop. -/
def start (s : TcpServer) (i : ℕ) : Except Fault TcpServer := do
  assertThat ((s.loop i).stoplooping_ = true)
  let loop := { (s.loop i).settid i with stoplooping_ := false }
  loop.assertInLoopThread i
  return { s with loop := Function.update s.loop i loop }.setPhase i .top

def swap (s : TcpServer) (i : ℕ) : TcpServer :=
  let (tasks, loop) := (s.loop i).swapTasks
  { s with loop := Function.update s.loop i loop }.setThread i
    { s.thread i with phase := .tasks, tasks := tasks, todo := tasks.map .task }

/-- What `fillActiveChannels` asserts of a channel. -/
def Registered (s : TcpServer) (i : ℕ) : Ready → Prop
  | .conn c _ _ => ((s.poller i).channels_ (s.conn c).connChannel_.fd_).map Prod.fst = some c
  | _ => True

instance (s : TcpServer) (i : ℕ) (r : Ready) : Decidable (s.Registered i r) := by
  cases r <;> unfold Registered <;> infer_instance

def poll (s : TcpServer) (i : ℕ) (active : List Ready) : Except Fault TcpServer := do
  assertThat (∀ r ∈ active, s.Registered i r)
  return s.setThread i { s.thread i with phase := .handlers, todo := active.flatMap Ready.work }

def exec (s : TcpServer) : Action → Except Fault TcpServer
  | .start i => s.start i
  | .swap i => return s.swap i
  | .task i t => (s.pop i).runTask i t
  | .endTasks i => return s.setThread i { s.thread i with phase := .polling, tasks := [] }
  | .poll i active => s.poll i active
  | .acceptorRead i connfd =>
    match connfd with
    | some fd => s.newConnection i fd
    | none => return s.pop i
  | .handleRead i c data => (s.pop i).handleRead i c data
  | .handleWrite i c written => (s.pop i).handleWrite i c written
  | .userHandler i => return (s.pop i).enterUser i none
  | .closeCallback i c => (s.pop i).removeConnection i c
  | .removeChannel i c => (s.pop i).removeChannel c
  | .endHandlers i => return s.setPhase i .top
  | .userReturns i => return s.setThread i { s.thread i with user := none }
  | .send t c msg => s.send t c msg
  | .shutdown t c => s.shutdown t c
  | .close _ c => return s.close c
  | .closeInNextLoop _ c => return s.closeInNextLoop c
  | .queueUser _ i => return s.queueInLoop i .user
  | .retrieve _ c len => do
    let input ← (s.conn c).input_.retrieve len
    return s.setConn c { s.conn c with input_ := input }
  | .copyPtr _ c => return { s with handles := c :: s.handles }
  | .dropPtr c => return { s with handles := s.handles.erase c }

/-- The server and its loops. -/
def machine : Machine TcpServer Action Fault where
  allowed := allowed
  exec := exec

/-- A server before its loops are started. -/
def initial (size_ : ℕ) (name_ : Bytes) (writeCompleteCallback_ : Bool) : TcpServer :=
  { size_ := size_, name_ := name_, writeCompleteCallback_ := writeCompleteCallback_ }

instance (s : TcpServer) (t : Thread) : Decidable (s.InUser t) := by
  cases t <;> unfold InUser <;> infer_instance

instance (s : TcpServer) (t : Thread) (c : ConnId) : Decidable (s.Holds t c) := by
  unfold Holds
  infer_instance

instance (s : TcpServer) (i : ℕ) (w : Work) : Decidable (s.Next i w) := by
  unfold Next
  infer_instance

instance (s : TcpServer) (i : ℕ) (r : Ready) : Decidable (s.ReadyIn i r) := by
  unfold ReadyIn
  cases r with
  | conn c read write => simp only; split <;> infer_instance
  | acceptor => infer_instance
  | other => infer_instance

instance (s : TcpServer) (a : Action) : Decidable (machine.allowed s a) := by
  show Decidable (s.allowed a)
  cases a <;> unfold allowed <;> infer_instance

/-! ## Conditions on actions -/

/-- Fewer than `2 ^ 31` connections are accepted. -/
def Few (s : TcpServer) : Action → Prop
  | .acceptorRead _ (some _) => s.created + 1 < 2 ^ 31
  | _ => True

/-- A task that is bound to a raw pointer runs on a live connection. -/
def RunsOnLive (s : TcpServer) : Action → Prop
  | .task _ t => ∀ c ∈ t.raw, s.Alive c
  | _ => True

instance (s : TcpServer) (a : Action) : Decidable (s.Few a) := by
  unfold Few
  split <;> infer_instance

instance (s : TcpServer) (a : Action) : Decidable (s.RunsOnLive a) := by
  unfold RunsOnLive
  split <;> infer_instance

/-- The acceptor loop of a server without other loops accepts a connection and calls back. -/
def acceptOne : List Action :=
  [.start 0, .swap 0, .endTasks 0, .poll 0 [.acceptor], .acceptorRead 0 (some 7)]

end TcpServer
end Miniduo
