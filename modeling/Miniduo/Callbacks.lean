import Miniduo.Http.HttpServer
import Miniduo.TcpServer

/-!
# The callbacks of a program

`TcpServer.lean` leaves a loop thread in user code when it calls a callback. Here the callbacks are
those of a program: functions of the context that it keeps for each connection. `Serving` is the
server with the callbacks; a callback runs as the calls that it makes, one step each, so that other
threads run between them. `Conversation` is one connection by itself, on which a callback runs in one
step.
-/

namespace Miniduo

open HttpServer (SessionTask)

/-! ## Callbacks -/

/-- What a callback does with its connection. -/
inductive Call
  /-- Bytes are taken out of the input buffer. -/
  | retrieve (len : ℕ)
  | send (msg : Bytes)
  | close
  /-- `sendfile` has put bytes on the socket. -/
  | sendfile (bytes : Bytes)
deriving Repr, BEq, ReflBEq, LawfulBEq

/-- Long messages are compared byte by byte, without a proof for each byte. -/
instance : DecidableEq Call := instDecidableEqOfLawfulBEq

/-- The step of the server that a call by loop thread `i` is, if it is one. -/
def Call.action (i : ℕ) (c : ConnId) : Call → Option TcpServer.Action
  | .retrieve len => some (.retrieve i c len)
  | .send msg => some (.send (.loop i) c msg)
  | .close => some (.close (.loop i) c)
  | .sendfile _ => none

/-- `msgCallback_` and `writeCompleteCallback_` of a program whose context (`getContext`) is of type
`χ`. A callback gets what its system calls return, and leaves the context and the calls that it
makes, in their order. `connectionCallback_` makes no calls. -/
structure Callbacks (χ ρ ω : Type) where
  /-- The context when it is first asked for. -/
  context : χ
  msgCallback_ : ρ → Bytes → χ → Except Fault (χ × List Call)
  writeCompleteCallback_ : Option (ω → χ → Except Fault (χ × List Call))
  /-- What the system calls may return. -/
  Reads : ρ → Prop
  Returns : χ → ω → Prop

variable {χ ρ ω : Type}

/-! ## One connection -/

/-- A connection with its context. -/
structure Conversation (χ : Type) where
  context : χ
  /-- `state_` is not `kDisconnected`. -/
  connected : Bool := true
  /-- Write interest. -/
  isWriting : Bool := false
  input_ : Buffer := .fresh
  output_ : Buffer := .fresh
  pendingTasks_ : List SessionTask := []
  /-- What is left of the batch that `doPendingTasks` is running. -/
  tasks : List SessionTask := []
  /-- The bytes that have reached the socket. -/
  socket : Bytes := []
  /-- The bytes that have been read from it. -/
  received : Bytes := []
deriving DecidableEq

namespace Conversation

def call (s : Conversation χ) : Call → Except Fault (Conversation χ)
  | .retrieve len => do
    let input ← s.input_.retrieve len
    return { s with input_ := input }
  | .send msg =>
    if s.connected then do
      let output ← s.output_.append msg
      return { s with output_ := output, isWriting := true }
    else return s
  | .close => return { s with pendingTasks_ := s.pendingTasks_ ++ [.closeInLoop] }
  | .sendfile bytes => return { s with socket := s.socket ++ bytes }

/-- The calls of a callback, one after the other. -/
def calls : Conversation χ → List Call → Except Fault (Conversation χ)
  | s, [] => .ok s
  | s, call :: rest => do
    let s ← s.call call
    s.calls rest

inductive Event (ρ ω : Type)
  /-- `handleRead` reads bytes and calls `msgCallback_`. -/
  | read (data : Bytes) (reply : ρ)
  | peerClosed
  | write (written : Option ℕ)
  /-- `doPendingTasks` takes the queue. -/
  | swap
  /-- The next task of the batch is the callback. -/
  | writeComplete (reply : ω)
  /-- The next task of the batch is `closeInLoop`. -/
  | closeInLoop
deriving DecidableEq

/-- Handlers run between the batches. -/
def allowed (callbacks : Callbacks χ ρ ω) (s : Conversation χ) : Event ρ ω → Prop
  | .read data reply =>
    s.tasks = [] ∧ s.connected = true ∧ data ≠ [] ∧ callbacks.Reads reply ∧
      data.length ≤ s.input_.writableBytes + Buffer.extraSize
  | .peerClosed => s.tasks = [] ∧ s.connected = true
  | .write written => s.tasks = [] ∧ ∀ n ∈ written, n ≤ s.output_.readableBytes
  | .swap => s.tasks = []
  | .writeComplete reply =>
    s.tasks.head? = some .onWriteComplete ∧ callbacks.Returns s.context reply
  | .closeInLoop => s.tasks.head? = some .closeInLoop

def disconnect (s : Conversation χ) : Conversation χ :=
  { s with connected := false, isWriting := false }

/-- `handleWrite`, with what `write` returns: `none` for -1. -/
def handleWrite (completes : Bool) (written : Option ℕ) (s : Conversation χ) :
    Except Fault (Conversation χ) :=
  if s.isWriting then
    match (if s.output_.readableBytes > 0 then written else some 0) with
    | none => .ok s
    | some n => do
      let output ← s.output_.retrieve n
      let s := { s with output_ := output, socket := s.socket ++ s.output_.readable.take n }
      if output.readableBytes = 0 then
        return { s with
          isWriting := false
          pendingTasks_ :=
            if completes then s.pendingTasks_ ++ [.onWriteComplete] else s.pendingTasks_ }
      else return s
  else .ok s

/-- An event up to the calls of its callback. -/
def enter (callbacks : Callbacks χ ρ ω) (s : Conversation χ) :
    Event ρ ω → Except Fault (Conversation χ × List Call)
  | .read data reply => do
    let input ← s.input_.readFd (some data)
    let (context, calls) ← callbacks.msgCallback_ reply input.readable s.context
    return ({ s with input_ := input, context := context, received := s.received ++ data }, calls)
  | .peerClosed => return (s.disconnect, [])
  | .write written => do
    let s ← s.handleWrite callbacks.writeCompleteCallback_.isSome written
    return (s, [])
  | .swap => return ({ s with tasks := s.pendingTasks_, pendingTasks_ := [] }, [])
  | .writeComplete reply =>
    let s := { s with tasks := s.tasks.tail }
    match callbacks.writeCompleteCallback_ with
    | some callback => do
      let (context, calls) ← callback reply s.context
      return ({ s with context := context }, calls)
    | none => return (s, [])
  | .closeInLoop =>
    let s := { s with tasks := s.tasks.tail }
    return (if s.connected then s.disconnect else s, [])

def exec (callbacks : Callbacks χ ρ ω) (s : Conversation χ) (e : Event ρ ω) :
    Except Fault (Conversation χ) := do
  let (s, calls) ← s.enter callbacks e
  s.calls calls

def machine (callbacks : Callbacks χ ρ ω) : Machine (Conversation χ) (Event ρ ω) Fault where
  allowed := allowed callbacks
  exec := exec callbacks

def initial (callbacks : Callbacks χ ρ ω) : Conversation χ := { context := callbacks.context }

end Conversation

/-! ## The server with the callbacks -/

structure Serving (χ : Type) where
  tcp : TcpServer
  context : ConnId → χ
  /-- What the callback that loop thread `i` is running has still to do. -/
  script : ℕ → List Call := fun _ => []
  /-- The bytes that have reached the socket of each connection. -/
  socket : ConnId → Bytes := fun _ => []
  /-- The bytes that have been read from it. -/
  received : ConnId → Bytes := fun _ => []

namespace Serving

inductive Action (ρ ω : Type)
  /-- A step in which no callback is called that gets a buffer or a context. -/
  | tcp (a : TcpServer.Action)
  /-- `handleRead` reads bytes and calls `msgCallback_`. -/
  | msgCallback (i : ℕ) (c : ConnId) (data : Bytes) (reply : ρ)
  | writeCompleteCallback (i : ℕ) (c : ConnId) (reply : ω)
  /-- The callback of the connection that loop thread `i` is running makes its next call. -/
  | call (i : ℕ) (c : ConnId) (call : Call)
deriving Repr, DecidableEq

/-- The bytes that have reached the sockets when `handleWrite` has left the server at `tcp`. -/
def afterWrite (s : Serving χ) (tcp : TcpServer) : TcpServer.Action → ConnId → Bytes
  | .handleWrite _ c _ => Function.update s.socket c
      (s.socket c ++ (tcp.conn c).log.wrote.drop (s.tcp.conn c).log.wrote.length)
  | _ => s.socket

/-- A step of the server. -/
def step (s : Serving χ) (a : TcpServer.Action) : Except Fault (Serving χ) := do
  let tcp ← s.tcp.exec a
  return { s with tcp := tcp, socket := s.afterWrite tcp a }

/-- Loop thread `i` begins a callback of the connection. -/
def enter (s : Serving χ) (i : ℕ) (c : ConnId) (context : χ) (calls : List Call) : Serving χ :=
  { s with
    context := Function.update s.context c context
    script := Function.update s.script i calls }

def call (s : Serving χ) (i : ℕ) (c : ConnId) : Call → Except Fault (Serving χ)
  | .retrieve len => s.step (.retrieve i c len)
  | .send msg => s.step (.send (.loop i) c msg)
  | .close => s.step (.close (.loop i) c)
  | .sendfile bytes =>
    .ok { s with socket := Function.update s.socket c (s.socket c ++ bytes) }

/-- The steps of the loops, and code of the program that has no pointer to a connection. A callback
returns when it has made its calls. -/
def Plain (s : Serving χ) : TcpServer.Action → Prop
  | .task _ (.writeCompleteCallback _) => False
  | .handleRead _ _ data => data.getD [] = []
  | .userReturns i => s.script i = []
  | .task .. | .start _ | .swap _ | .endTasks _ | .poll .. | .acceptorRead .. | .handleWrite ..
  | .userHandler _ | .closeCallback .. | .removeChannel .. | .endHandlers _ | .queueUser .. => True
  | .send .. | .shutdown .. | .close .. | .closeInNextLoop .. | .retrieve .. | .copyPtr ..
  | .dropPtr _ => False

/-- Loop thread `i` is in a callback of the connection, and this is its next call. -/
def NextCall (s : Serving χ) (i : ℕ) (c : ConnId) (call : Call) : Prop :=
  (s.tcp.thread i).user = some (some c) ∧ (s.script i).head? = some call

def allowed (callbacks : Callbacks χ ρ ω) (s : Serving χ) : Action ρ ω → Prop
  | .tcp a => s.tcp.allowed a ∧ s.Plain a
  | .msgCallback i c data reply =>
    s.tcp.allowed (.handleRead i c (some data)) ∧ data ≠ [] ∧ callbacks.Reads reply
  | .writeCompleteCallback i c reply =>
    s.tcp.allowed (.task i (.writeCompleteCallback c)) ∧ callbacks.Returns (s.context c) reply
  | .call i c call => s.NextCall i c call ∧ ∀ a ∈ call.action i c, s.tcp.allowed a

def exec (callbacks : Callbacks χ ρ ω) (s : Serving χ) :
    Action ρ ω → Except Fault (Serving χ)
  | .tcp a => s.step a
  | .msgCallback i c data reply => do
    let s ← s.step (.handleRead i c (some data))
    let (context, calls) ←
      callbacks.msgCallback_ reply (s.tcp.conn c).input_.readable (s.context c)
    let received := Function.update s.received c (s.received c ++ data)
    return { s with received := received }.enter i c context calls
  | .writeCompleteCallback i c reply => do
    let s ← s.step (.task i (.writeCompleteCallback c))
    match callbacks.writeCompleteCallback_ with
    | some callback => do
      let (context, calls) ← callback reply (s.context c)
      return s.enter i c context calls
    | none => return s
  | .call i c call =>
    { s with script := Function.update s.script i (s.script i).tail }.call i c call

/-- A server with the callbacks of a program. -/
def machine (callbacks : Callbacks χ ρ ω) : Machine (Serving χ) (Action ρ ω) Fault where
  allowed := allowed callbacks
  exec := exec callbacks

def initial (callbacks : Callbacks χ ρ ω) (size_ : ℕ) (name_ : Bytes) : Serving χ where
  tcp := TcpServer.initial size_ name_ callbacks.writeCompleteCallback_.isSome
  context _ := callbacks.context

/-- Fewer than `2 ^ 31` connections are accepted. -/
def Few (s : Serving χ) : Action ρ ω → Prop
  | .tcp a => s.tcp.Few a
  | _ => True

instance (s : Serving χ) : ∀ a, Decidable (s.Plain a)
  | .task _ (.writeCompleteCallback _) => isFalse id
  | .task _ (.connectEstablished _) | .task _ (.connectDestroyed _)
  | .task _ (.removeConnectionInLoop _) | .task _ (.sendInLoop ..) | .task _ (.shutdownInLoop _)
  | .task _ (.closeInLoop _) | .task _ (.closeInNextLoop _) | .task _ .user =>
    isTrue trivial
  | .handleRead .. => inferInstanceAs (Decidable (_ = _))
  | .userReturns _ => inferInstanceAs (Decidable (_ = _))
  | .start _ | .swap _ | .endTasks _ | .poll .. | .acceptorRead .. | .handleWrite .. | .userHandler _
  | .closeCallback .. | .removeChannel .. | .endHandlers _ | .queueUser .. => isTrue trivial
  | .send .. | .shutdown .. | .close .. | .closeInNextLoop .. | .retrieve .. | .copyPtr ..
  | .dropPtr _ => isFalse id

instance (s : Serving χ) (i : ℕ) (c : ConnId) (call : Call) : Decidable (s.NextCall i c call) :=
  inferInstanceAs (Decidable (_ ∧ _))

instance (s : TcpServer) (a : TcpServer.Action) : Decidable (s.allowed a) :=
  inferInstanceAs (Decidable (TcpServer.machine.allowed s a))

instance (callbacks : Callbacks χ ρ ω) [DecidablePred callbacks.Reads]
    [∀ x y, Decidable (callbacks.Returns x y)] (s : Serving χ) :
    ∀ a, Decidable ((machine callbacks).allowed s a)
  | .tcp _ => inferInstanceAs (Decidable (_ ∧ _))
  | .msgCallback .. => inferInstanceAs (Decidable (_ ∧ _ ∧ _))
  | .writeCompleteCallback .. => inferInstanceAs (Decidable (_ ∧ _))
  | .call .. => inferInstanceAs (Decidable (_ ∧ _))

instance (s : Serving χ) : ∀ a : Action ρ ω, Decidable (s.Few a)
  | .tcp a => inferInstanceAs (Decidable (s.tcp.Few a))
  | .msgCallback .. | .writeCompleteCallback .. | .call .. => isTrue trivial

end Serving

/-! ## The echo server -/

namespace EchoServer

/-- `onMsg` of `examples/echosvr.cpp`: what is in the input buffer is taken out and sent. -/
def onMsg (input : Bytes) : List Call := [.retrieve input.length, .send input]

def callbacks : Callbacks Unit Unit Unit where
  context := ()
  msgCallback_ _ input _ := .ok ((), onMsg input)
  writeCompleteCallback_ := none
  Reads _ := True
  Returns _ _ := True

instance : DecidablePred callbacks.Reads := fun _ => isTrue trivial
instance : ∀ x y, Decidable (callbacks.Returns x y) := fun _ _ => isTrue trivial

/-- A connection is accepted, and has something to read. -/
def arrival : List TcpServer.Action :=
  TcpServer.acceptOne ++ [.userReturns 0, .acceptorRead 0 none, .endHandlers 0, .swap 0,
    .endTasks 0, .poll 0 [.conn 0 true false]]

/-- The callback returns, and one byte is written. -/
def writeByte : List TcpServer.Action :=
  [.userReturns 0, .endHandlers 0, .swap 0, .endTasks 0, .poll 0 [.conn 0 false true],
    .handleWrite 0 0 (some 1)]

/-- A connection sends two bytes, and has one of them back. -/
def echoTwo : List (Serving.Action Unit Unit) :=
  arrival.map .tcp ++
  [.msgCallback 0 0 [104, 105] (), .call 0 0 (.retrieve 2), .call 0 0 (.send [104, 105])] ++
  writeByte.map .tcp

end EchoServer
end Miniduo
