import Miniduo.Buffer
import Miniduo.EventLoop
import Miniduo.Poller

/-!
# `TcpConnection`

The connections of `conn.h` and `conn.cpp` and what their member functions touch: the event loops
with their task queues and pollers, and the threads that run the loops. A connection is named by
the number of connections created before it, which stands for its address; the loop thread of loop
`i` has the thread id `i`.

User callbacks are not functions of the model. A call of one leaves the calling loop thread in user
code, where the actions of `TcpServer.lean` let it do what a callback may do, until it returns.
-/

namespace Miniduo

abbrev ConnId := ℕ

/-- The threads of the process: those that run event loops, and others. -/
inductive Thread
  | loop (i : ℕ)
  | other (n : ℕ)
deriving Repr, DecidableEq

def Thread.tid : Thread → ℤ
  | .loop i => i
  | .other n => -2 - n

inductive StateE
  | kConnecting | kConnected | kDisconnecting | kDisconnected
deriving Repr, DecidableEq

/-! ## Tasks and handlers -/

/-- What waits in the task queue of a loop. -/
inductive Task
  /-- Bound to a `TcpConnectionPtr`. -/
  | connectEstablished (c : ConnId)
  | connectDestroyed (c : ConnId)
  | removeConnectionInLoop (c : ConnId)
  | writeCompleteCallback (c : ConnId)
  /-- Bound to the raw pointer `this`. -/
  | sendInLoop (c : ConnId) (sender : Thread) (msg : Bytes)
  | shutdownInLoop (c : ConnId)
  | closeInLoop (c : ConnId)
  /-- The intermediate task of `closeInNextLoop`. -/
  | closeInNextLoop (c : ConnId)
  /-- A task of user code. -/
  | user
deriving Repr, DecidableEq

/-- The connection that a task keeps alive. -/
def Task.owner : Task → Option ConnId
  | .connectEstablished c | .connectDestroyed c | .removeConnectionInLoop c
  | .writeCompleteCallback c => some c
  | _ => none

/-- The connection whose raw pointer a task is bound to. -/
def Task.raw : Task → Option ConnId
  | .sendInLoop c _ _ | .shutdownInLoop c | .closeInLoop c | .closeInNextLoop c => some c
  | _ => none

/-- What a loop thread has left to do in the present part of its iteration. -/
inductive Work
  | task (t : Task)
  /-- `Acceptor::handleRead`, up to the next `accept`. -/
  | acceptorRead
  | handleRead (c : ConnId)
  | handleWrite (c : ConnId)
  /-- A handler that runs user code only, such as that of a timer. -/
  | userHandler
  /-- What is left of `handleClose` when the connection callback has returned. -/
  | closeCallback (c : ConnId)
  /-- What is left of `connectDestroyed` when the connection callback has returned. -/
  | removeChannel (c : ConnId)
deriving Repr, DecidableEq

/-- Where a loop thread stands in `loop()`. -/
inductive Phase
  | notStarted | top | tasks | polling | handlers
deriving Repr, DecidableEq

structure LoopThread where
  phase : Phase := .notStarted
  /-- The vector of `doPendingTasks`: the whole batch, up to the end of the call. -/
  tasks : List Task := []
  todo : List Work := []
  /-- The thread is in user code, in a callback with the given connection or without one. -/
  user : Option (Option ConnId) := none
deriving Repr, DecidableEq

/-! ## State -/

/-- What has happened to a connection. -/
structure ConnLog where
  /-- The calls of `send`, with the calling thread. -/
  sends : List (Thread × Bytes) := []
  /-- The messages that `sendInLoop` accepted. -/
  accepted : List (Thread × Bytes) := []
  /-- The bytes that `write` took. -/
  wrote : Bytes := []
  /-- `output_.readableBytes()` at each `socket::shutdownWrite`. -/
  shutdownWrites : List ℕ := []
  /-- The loops whose thread ran the connection callback on the way up and on the way down. -/
  up : List ℕ := []
  down : List ℕ := []
  /-- The number of times `removeConnectionInLoop` ran. -/
  removals : ℕ := 0
deriving Repr, DecidableEq

structure TcpConnection where
  loop_ : ℕ
  name_ : Bytes
  state_ : StateE := .kConnecting
  input_ : Buffer := .fresh
  output_ : Buffer := .fresh
  connChannel_ : Channel
  log : ConnLog := {}
deriving Repr, DecidableEq

/-- A `TcpServer` with the loops it runs on. Loop `0` is the acceptor's; loop `i + 1` is
`subLoops_[i]`. -/
structure TcpServer where
  size_ : ℕ
  next_ : ℕ := 0
  name_ : Bytes
  /-- Whether `writeCompleteCallback_` is set. -/
  writeCompleteCallback_ : Bool
  nextConnId_ : ℤ := 1
  connections_ : Bytes → Option ConnId := fun _ => none
  created : ℕ := 0
  conn : ConnId → TcpConnection := fun _ => ⟨0, [], .kConnecting, .fresh, .fresh, ⟨0, 0⟩, {}⟩
  loop : ℕ → EventLoop Task := fun _ => {}
  poller : ℕ → EPollPoller ConnId := fun _ => {}
  thread : ℕ → LoopThread := fun _ => {}
  /-- The pointers that user code keeps, besides the arguments of running callbacks. -/
  handles : List ConnId := []

namespace TcpServer

def setConn (s : TcpServer) (c : ConnId) (conn : TcpConnection) : TcpServer :=
  { s with conn := Function.update s.conn c conn }

def setThread (s : TcpServer) (i : ℕ) (thread : LoopThread) : TcpServer :=
  { s with thread := Function.update s.thread i thread }

def assertInLoopThread (s : TcpServer) (i : ℕ) (currentTid : ℤ) : Except Fault Unit :=
  (s.loop i).assertInLoopThread currentTid

def queueInLoop (s : TcpServer) (i : ℕ) (cb : Task) : TcpServer :=
  { s with loop := Function.update s.loop i ((s.loop i).queueInLoop cb) }

def pushWork (s : TcpServer) (i : ℕ) (w : Work) : TcpServer :=
  s.setThread i { s.thread i with todo := w :: (s.thread i).todo }

/-- Loop thread `i` calls a user callback. -/
def enterUser (s : TcpServer) (i : ℕ) (arg : Option ConnId) : TcpServer :=
  s.setThread i { s.thread i with user := some arg }

/-! ## The channel of a connection -/

/-- The channel's new mask, and `update()`. Every caller has asserted that it is in the loop
thread, so `runInLoop` passes the call to the poller at once. -/
def updateChannel (s : TcpServer) (c : ConnId) (ch : Channel) : Except Fault TcpServer := do
  let conn := s.conn c
  let p ← (s.poller conn.loop_).updateChannel c ch
  return { s.setConn c { conn with connChannel_ := ch } with
    poller := Function.update s.poller conn.loop_ p }

def addChannel (s : TcpServer) (c : ConnId) : Except Fault TcpServer := do
  let conn := s.conn c
  let p ← (s.poller conn.loop_).addChannel c conn.connChannel_
  return { s with poller := Function.update s.poller conn.loop_ p }

def removeChannel (s : TcpServer) (c : ConnId) : Except Fault TcpServer := do
  let conn := s.conn c
  let p ← (s.poller conn.loop_).removeChannel c conn.connChannel_
  return { s with poller := Function.update s.poller conn.loop_ p }

def enableReading (s : TcpServer) (c : ConnId) (enable : Bool) : Except Fault TcpServer :=
  s.updateChannel c ((s.conn c).connChannel_.enableReading enable)

def enableWriting (s : TcpServer) (c : ConnId) (enable : Bool) : Except Fault TcpServer :=
  s.updateChannel c ((s.conn c).connChannel_.enableWriting enable)

def disableAll (s : TcpServer) (c : ConnId) : Except Fault TcpServer :=
  s.updateChannel c (s.conn c).connChannel_.disableAll

/-! ## Members of `TcpConnection`, run by loop thread `i` -/

def setState (s : TcpServer) (c : ConnId) (state : StateE) : TcpServer :=
  s.setConn c { s.conn c with state_ := state }

/-- `connectionCallback_` on the way up. -/
def callUp (s : TcpServer) (i : ℕ) (c : ConnId) : TcpServer :=
  let conn := s.conn c
  (s.setConn c { conn with log := { conn.log with up := conn.log.up ++ [i] } }).enterUser i (some c)

/-- `connectionCallback_` on the way down. -/
def callDown (s : TcpServer) (i : ℕ) (c : ConnId) : TcpServer :=
  let conn := s.conn c
  (s.setConn c { conn with log := { conn.log with down := conn.log.down ++ [i] } }).enterUser i
    (some c)

def connectEstablished (s : TcpServer) (i : ℕ) (c : ConnId) : Except Fault TcpServer := do
  s.assertInLoopThread (s.conn c).loop_ i
  assertThat ((s.conn c).state_ = .kConnecting)
  let s := s.setState c .kConnected
  let s ← s.addChannel c
  let s ← s.enableReading c true
  return s.callUp i c

def connectDestroyed (s : TcpServer) (i : ℕ) (c : ConnId) : Except Fault TcpServer := do
  s.assertInLoopThread (s.conn c).loop_ i
  if (s.conn c).state_ = .kConnected then
    let s := s.setState c .kDisconnected
    let s ← s.disableAll c
    return (s.pushWork i (.removeChannel c)).callDown i c
  else s.removeChannel c

def handleClose (s : TcpServer) (i : ℕ) (c : ConnId) : Except Fault TcpServer := do
  s.assertInLoopThread (s.conn c).loop_ i
  assertThat ((s.conn c).state_ = .kConnected ∨ (s.conn c).state_ = .kDisconnecting)
  let s := s.setState c .kDisconnected
  let s ← s.disableAll c
  return (s.pushWork i (.closeCallback c)).callDown i c

/-- `handleRead`, with what `readv` returns: `none` for -1, the bytes read else. -/
def handleRead (s : TcpServer) (i : ℕ) (c : ConnId) (data : Option Bytes) :
    Except Fault TcpServer :=
  match data with
  | none => return s
  | some [] => s.handleClose i c
  | some (x :: data) => do
    let input ← (s.conn c).input_.readFd (some (x :: data))
    let s := s.setConn c { s.conn c with input_ := input }
    return s.enterUser i (some c)

def shutdownInLoop (s : TcpServer) (i : ℕ) (c : ConnId) : Except Fault TcpServer := do
  s.assertInLoopThread (s.conn c).loop_ i
  let conn := s.conn c
  if conn.state_ = .kConnected then
    let conn := { conn with state_ := .kDisconnecting }
    if !conn.connChannel_.isWriting then
      -- `socket::shutdownWrite`
      return s.setConn c { conn with
        log.shutdownWrites := conn.log.shutdownWrites ++ [conn.output_.readableBytes] }
    else return s.setConn c conn
  else return s

/-- `handleWrite`, with what `write` returns: `none` for -1, the number of bytes else. With
nothing to write, `write` is not called. -/
def handleWrite (s : TcpServer) (i : ℕ) (c : ConnId) (written : Option ℕ) :
    Except Fault TcpServer := do
  s.assertInLoopThread (s.conn c).loop_ i
  let conn := s.conn c
  if conn.connChannel_.isWriting then
    match (if conn.output_.readableBytes > 0 then written else some 0) with
    | none => return s
    | some n =>
      let output ← conn.output_.retrieve n
      let s := s.setConn c { conn with
        output_ := output, log.wrote := conn.log.wrote ++ conn.output_.readable.take n }
      if output.readableBytes = 0 then
        let s ← s.enableWriting c false
        let s := if s.writeCompleteCallback_ then
          s.queueInLoop conn.loop_ (.writeCompleteCallback c) else s
        if (s.conn c).state_ = .kDisconnecting then s.shutdownInLoop i c
        else return s
      else return s
  else return s

def closeInLoop (s : TcpServer) (i : ℕ) (c : ConnId) : Except Fault TcpServer := do
  s.assertInLoopThread (s.conn c).loop_ i
  if (s.conn c).state_ = .kConnected ∨ (s.conn c).state_ = .kDisconnecting then s.handleClose i c
  else return s

def sendInLoop (s : TcpServer) (i : ℕ) (c : ConnId) (sender : Thread) (msg : Bytes) :
    Except Fault TcpServer := do
  s.assertInLoopThread (s.conn c).loop_ i
  let conn := s.conn c
  if conn.state_ = .kConnected then
    let output ← conn.output_.append msg
    let s := s.setConn c { conn with
      output_ := output, log.accepted := conn.log.accepted ++ [(sender, msg)] }
    if !conn.connChannel_.isWriting then s.enableWriting c true
    else return s
  else return s

/-! ## Members that any thread may call -/

/-- `runInLoop` runs the call at once in the loop's own thread, and queues it in any other. -/
def send (s : TcpServer) (t : Thread) (c : ConnId) (msg : Bytes) : Except Fault TcpServer :=
  let conn := s.conn c
  let s := s.setConn c { conn with log.sends := conn.log.sends ++ [(t, msg)] }
  if (s.loop conn.loop_).isInLoopThread t.tid then s.sendInLoop conn.loop_ c t msg
  else return s.queueInLoop conn.loop_ (.sendInLoop c t msg)

def shutdown (s : TcpServer) (t : Thread) (c : ConnId) : Except Fault TcpServer :=
  if (s.loop (s.conn c).loop_).isInLoopThread t.tid then s.shutdownInLoop (s.conn c).loop_ c
  else return s.queueInLoop (s.conn c).loop_ (.shutdownInLoop c)

def close (s : TcpServer) (c : ConnId) : TcpServer :=
  s.queueInLoop (s.conn c).loop_ (.closeInLoop c)

def closeInNextLoop (s : TcpServer) (c : ConnId) : TcpServer :=
  s.queueInLoop (s.conn c).loop_ (.closeInNextLoop c)

end TcpServer
end Miniduo
