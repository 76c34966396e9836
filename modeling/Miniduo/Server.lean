import Miniduo.TcpServer
import Mathlib.Data.List.Sort

/-!
# The server around its connections

`TcpServer.lean` has the connections of a server and the loops it runs on. This is the rest of
`conn.h` and `conn.cpp`: the acceptor, `start()` by any thread, the destructor, and with them the
descriptors that the loops and the server open. A call of `start()` is two steps, the test of
`listening_` and the call of `runInLoop`, so that other threads run between them.
-/

namespace Miniduo

/-! ## Descriptors -/

/-- The flags with which a descriptor is opened. -/
structure OpenFlags where
  nonblock : Bool
  cloexec : Bool
deriving Repr, DecidableEq

/-- `EFD_NONBLOCK | EFD_CLOEXEC`. -/
def createEventfd : OpenFlags := ⟨true, true⟩

/-- `TFD_NONBLOCK | TFD_CLOEXEC`. -/
def createTimerfd : OpenFlags := ⟨true, true⟩

/-- `SOCK_STREAM | SOCK_NONBLOCK | SOCK_CLOEXEC`. -/
def createNonblockingSock : OpenFlags := ⟨true, true⟩

/-- `accept` has no flags, and the new descriptor does not inherit those of the listening one. -/
def acceptSock : OpenFlags := ⟨false, false⟩

/-! ## State -/

structure Acceptor where
  acceptChannel_ : Channel
  listening_ : Bool := false
  /-- How often `listen` has added the channel to the poller. -/
  adds : ℕ := 0
deriving Repr, DecidableEq

def Acceptor.acceptFd_ (acceptor : Acceptor) : ℕ := acceptor.acceptChannel_.fd_

/-- What a task is that `TcpServer` has as `.user` in the acceptor's loop: code of the program, or
`Acceptor::listen`. -/
inductive UserTask
  | code
  | listen
deriving Repr, DecidableEq

/-- What ends a step that does not return. -/
inductive Failure
  | fault (f : Fault)
  /-- A task or a handler uses the server or its acceptor behind their destruction. -/
  | destroyed
deriving Repr, DecidableEq

def failing {α : Type} (x : Except Fault α) : Except Failure α := x.mapError .fault

structure Server where
  tcp : TcpServer
  acceptor : Acceptor
  started_ : Bool := false
  destroyed : Bool := false
  /-- The threads inside `start()` that are about to call `runInLoop`. -/
  starting : List Thread := []
  /-- The tasks that wait as `.user` in the acceptor's loop, in their order. -/
  userTasks : List UserTask := []
  /-- The acceptor's entries of the poller of loop `0`; those of connections are in `tcp.poller 0`,
  under other descriptors. -/
  poller : EPollPoller Unit := {}
  /-- The descriptors of each loop, whose channels its constructor registers. -/
  wakeupFd_ : ℕ → ℕ
  timerfd_ : ℕ → ℕ
  /-- How each descriptor was opened. -/
  flags : ℕ → Option OpenFlags

namespace Server

/-- The constructors of the first `n` loops. -/
def openLoops (wakeupFd_ timerfd_ : ℕ → ℕ) : ℕ → ℕ → Option OpenFlags
  | 0 => fun _ => none
  | n + 1 =>
    let flags := Function.update (openLoops wakeupFd_ timerfd_ n) (wakeupFd_ n) (some createEventfd)
    Function.update flags (timerfd_ n) (some createTimerfd)

/-- A new server, on loops that have not been started. -/
def initial (size_ : ℕ) (name_ : Bytes) (writeCompleteCallback_ : Bool)
    (wakeupFd_ timerfd_ : ℕ → ℕ) (acceptFd_ : ℕ) : Server where
  tcp := TcpServer.initial size_ name_ writeCompleteCallback_
  acceptor := { acceptChannel_ := { fd_ := acceptFd_ } }
  wakeupFd_ := wakeupFd_
  timerfd_ := timerfd_
  flags := Function.update (openLoops wakeupFd_ timerfd_ (size_ + 1)) acceptFd_
    (some createNonblockingSock)

/-! ## Members -/

/-- `Acceptor::listen`, run by loop thread `i`. -/
def listen (s : Server) (i : ℕ) : Except Failure Server :=
  if s.destroyed then .error .destroyed
  else do
    let ch := s.acceptor.acceptChannel_
    -- `addChannel` and, from `enableReading`, `updateChannel` of the poller
    failing (s.tcp.assertInLoopThread 0 i)
    let p ← failing (s.poller.addChannel () ch)
    let ch := ch.enableReading true
    let p ← failing (p.updateChannel () ch)
    return { s with
      acceptor := { acceptChannel_ := ch, listening_ := true, adds := s.acceptor.adds + 1 }
      poller := p }

/-- `start()` up to the test of `listening_`. -/
def start (s : Server) (t : Thread) : Server :=
  { s with
    started_ := true
    starting := if s.acceptor.listening_ then s.starting else t :: s.starting }

/-- `start()` calls `runInLoop`. -/
def runListen (s : Server) (t : Thread) : Except Failure Server :=
  let s := { s with starting := s.starting.erase t }
  if (s.tcp.loop 0).isInLoopThread t.tid then s.listen 0
  else .ok { s with
    tcp := s.tcp.queueInLoop 0 .user
    userTasks := s.userTasks ++ [.listen] }

/-- The connections in `connections_`, in the order of their names. -/
def connections (s : TcpServer) : List ConnId :=
  ((List.range s.created).filter fun c => s.connections_ (s.conn c).name_ = some c).insertionSort
    fun c c' => (s.conn c).name_ ≤ (s.conn c').name_

/-- `runInLoop(connectDestroyed)` in another loop than the acceptor's. -/
def queueDestroyed (s : TcpServer) (c : ConnId) : TcpServer :=
  s.queueInLoop (s.conn c).loop_ (.connectDestroyed c)

/-- The loop thread goes on with `connectDestroyed` of the connections. -/
def runDestroyed (s : TcpServer) (cs : List ConnId) : TcpServer :=
  let th := s.thread 0
  s.setThread 0 { th with
    tasks := th.tasks ++ cs.map .connectDestroyed
    todo := cs.map (.task <| .connectDestroyed ·) ++ th.todo
    user := none }

/-- The destructor, called at the end of a task of the acceptor's loop. -/
def destroy (s : Server) : Except Failure Server := do
  failing (s.tcp.assertInLoopThread 0 0)
  let (here, away) := (connections s.tcp).partition fun c =>
    (s.tcp.loop (s.tcp.conn c).loop_).isInLoopThread 0
  let tcp := runDestroyed (away.foldl queueDestroyed s.tcp) here
  return { s with
    tcp := { tcp with connections_ := fun _ => none }
    destroyed := true
    -- the kernel forgets a descriptor that is closed, and the table of the poller does not
    poller := if s.acceptor.acceptFd_ > 0 then
        { s.poller with epoll := Function.update s.poller.epoll s.acceptor.acceptFd_ none }
      else s.poller }

/-! ## Actions -/

inductive Action
  /-- A step of a loop or of a connection, or code of the program. -/
  | tcp (a : TcpServer.Action)
  | start (t : Thread)
  | runListen (t : Thread)
  | destroy
deriving Repr, DecidableEq

/-- The thread that takes an action. -/
def actor : TcpServer.Action → Option Thread
  | .start i | .swap i | .task i _ | .endTasks i | .poll i _ | .acceptorRead i _
  | .handleRead i _ _ | .handleWrite i _ _ | .userHandler i | .closeCallback i _
  | .removeChannel i _ | .endHandlers i | .userReturns i | .retrieve i _ _ => some (.loop i)
  | .send t _ _ | .shutdown t _ | .close t _ | .closeInNextLoop t _ | .queueUser t _
  | .copyPtr t _ => some t
  | .dropPtr _ => none

/-- The kernel reports the acceptor's descriptor when it has been given it, and `accept` returns a
descriptor that is not open. -/
def Admits (s : Server) : TcpServer.Action → Prop
  | .poll _ active => .acceptor ∈ active → s.poller.epoll s.acceptor.acceptFd_ ≠ none
  | .acceptorRead _ (some fd) =>
    fd ≠ s.acceptor.acceptFd_ ∧ ∀ i ≤ s.tcp.size_, fd ≠ s.wakeupFd_ i ∧ fd ≠ s.timerfd_ i
  | _ => True

/-- `start()` is called on a server that lives. The server is destroyed by a task, and not inside a
call of `start()`. -/
def allowed (s : Server) : Action → Prop
  | .tcp a => s.tcp.allowed a ∧ (∀ t ∈ s.starting, actor a ≠ some t) ∧ s.Admits a
  | .start t => s.destroyed = false ∧ s.tcp.InUser t ∧ t ∉ s.starting
  | .runListen t => t ∈ s.starting
  | .destroy => s.destroyed = false ∧ s.starting = [] ∧
      (s.tcp.thread 0).phase = .tasks ∧ (s.tcp.thread 0).user = some none

/-- The action executes a queued `Acceptor::listen`. -/
def Listens (s : Server) (a : TcpServer.Action) : Prop :=
  a = .task 0 .user ∧ s.userTasks.head? = some .listen

instance (s : Server) (a : TcpServer.Action) : Decidable (s.Listens a) :=
  inferInstanceAs (Decidable (_ ∧ _))

/-- The steps that use the server or its acceptor. -/
def usesServer : TcpServer.Action → Bool
  | .task _ (.removeConnectionInLoop _) | .closeCallback _ _ | .acceptorRead _ _ => true
  | _ => false

def userTasksAfter (s : Server) : TcpServer.Action → List UserTask
  | .queueUser _ 0 => s.userTasks ++ [.code]
  | .task 0 .user => s.userTasks.tail
  | _ => s.userTasks

def flagsAfter (s : Server) : TcpServer.Action → ℕ → Option OpenFlags
  | .acceptorRead _ (some fd) => Function.update s.flags fd (some acceptSock)
  | _ => s.flags

def step (s : Server) (a : TcpServer.Action) : Except Failure Server :=
  if s.Listens a then
    { s with tcp := s.tcp.pop 0, userTasks := s.userTasks.tail }.listen 0
  else if s.destroyed && usesServer a then .error .destroyed
  else do
    let tcp ← failing (s.tcp.exec a)
    return { s with tcp := tcp, userTasks := s.userTasksAfter a, flags := s.flagsAfter a }

def exec (s : Server) : Action → Except Failure Server
  | .tcp a => s.step a
  | .start t => .ok (s.start t)
  | .runListen t => s.runListen t
  | .destroy => s.destroy

def machine : Machine Server Action Failure where
  allowed := allowed
  exec := exec

instance (s : Server) : ∀ a, Decidable (s.Admits a)
  | .poll _ active => inferInstanceAs (Decidable
      (.acceptor ∈ active → s.poller.epoll s.acceptor.acceptFd_ ≠ none))
  | .acceptorRead _ (some fd) =>
    have : Decidable (∀ i ≤ s.tcp.size_, fd ≠ s.wakeupFd_ i ∧ fd ≠ s.timerfd_ i) :=
      decidable_of_iff (∀ i < s.tcp.size_ + 1, fd ≠ s.wakeupFd_ i ∧ fd ≠ s.timerfd_ i)
        (by simp only [Nat.lt_succ_iff])
    inferInstanceAs (Decidable (_ ∧ _))
  | .acceptorRead _ none | .start _ | .swap _ | .task _ _ | .endTasks _ | .handleRead _ _ _
  | .handleWrite _ _ _ | .userHandler _ | .closeCallback _ _ | .removeChannel _ _ | .endHandlers _
  | .userReturns _ | .retrieve _ _ _ | .send _ _ _ | .shutdown _ _ | .close _ _
  | .closeInNextLoop _ _ | .queueUser _ _ | .copyPtr _ _ | .dropPtr _ => isTrue trivial

instance (s : Server) : ∀ a, Decidable (machine.allowed s a)
  | .tcp a =>
    have : Decidable (s.tcp.allowed a) := inferInstanceAs (Decidable (TcpServer.machine.allowed _ _))
    inferInstanceAs (Decidable (_ ∧ _ ∧ _))
  | .start t => inferInstanceAs (Decidable (s.destroyed = false ∧ s.tcp.InUser t ∧ t ∉ s.starting))
  | .runListen t => inferInstanceAs (Decidable (t ∈ s.starting))
  | .destroy => inferInstanceAs (Decidable (s.destroyed = false ∧ s.starting = [] ∧
      (s.tcp.thread 0).phase = .tasks ∧ (s.tcp.thread 0).user = some none))

end Server
end Miniduo
