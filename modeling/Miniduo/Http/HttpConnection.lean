import Miniduo.Buffer
import Miniduo.Http.HttpServer

/-!
# A connection and its file

A connection of the server with what it writes to: its output buffer, the socket, and the file
that a response opens. The first block of a file goes through the buffer, the others by `sendfile`.
What the input buffer holds when `onMsg` is called is a parameter of the call.
-/

namespace Miniduo

/-- What the system calls of one `onMsg` return: `stat`, `open`, and of the regular file that is
opened its bytes and the number of them that `read` stores (`none` for -1). -/
structure FileReply where
  stat : Option FileStat
  fd : ℤ
  content : Bytes
  count : Option ℕ

/-- `char buf[BUFFER_SIZE]` in `loadResponse`, and the size that `sendfile` is called with. -/
def BUFFER_SIZE : ℕ := 4 * 1024

namespace FileReply

/-- The system calls are made on one path and one descriptor only. -/
def fs (reply : FileReply) : FileSystem where
  stat _ := reply.stat
  openFile _ := reply.fd
  size _ := reply.content.length
  readFile _ := reply.count.map reply.content.take

/-- `read` stores some bytes of the file, and none only at its end. -/
def Regular (reply : FileReply) : Prop :=
  ∀ n ∈ reply.count, n ≤ BUFFER_SIZE ∧ n ≤ reply.content.length ∧ (n = 0 → reply.content = [])

instance (reply : FileReply) : Decidable reply.Regular :=
  match h : reply.count with
  | none => isTrue (by simp [Regular, h])
  | some n =>
    decidable_of_iff
      (n ≤ BUFFER_SIZE ∧ n ≤ reply.content.length ∧ (n = 0 → reply.content = []))
      (by simp [Regular, h])

end FileReply

/-- What happens to the descriptors of files. -/
inductive FdEvent
  | opened (fd : ℤ)
  | closed (fd : ℤ)
deriving Repr, DecidableEq

/-- What `onWriteComplete` finds when it takes a response for complete. -/
structure Completion where
  peerClosed : Bool
  /-- The bytes that have reached the socket. -/
  socket : Bytes
  headers_ : Bytes
  file : Bytes
deriving DecidableEq

/-- A `TcpConnection` of the server with its `HttpContext`. -/
structure HttpConnection where
  req : HttpRequest := {}
  resp : HttpResponse := {}
  /-- `state_` is `kConnected`, and the channel has read interest. -/
  connected : Bool := true
  /-- Write interest. -/
  isWriting : Bool := false
  output_ : Buffer := .fresh
  pendingTasks_ : List HttpServer.SessionTask := []
  /-- What is left of the batch that `doPendingTasks` is running. -/
  tasks : List HttpServer.SessionTask := []
  peerClosed : Bool := false
  destroyed : Bool := false
  /-- The bytes that have reached the socket. -/
  socket : Bytes := []
  /-- The file opened last, and the position in it. -/
  file : Bytes := []
  position : ℕ := 0
  /-- The codes that `loadResponse` got, in order. -/
  retcodes : List HttpCode := []
  /-- At each call of `sendfile`: the number of responses completed before, and
  `output_.readableBytes()`. -/
  sendfiles : List (ℕ × ℕ) := []
  completions : List Completion := []
  descriptors : List FdEvent := []

namespace HttpConnection

open HttpServer

/-! ## Callbacks -/

def sendInLoop (s : HttpConnection) (msg : Bytes) : Except Fault HttpConnection :=
  if s.connected then do
    let output ← s.output_.append msg
    return { s with output_ := output, isWriting := true }
  else return s

def sendResponse (s : HttpConnection) : Except Fault HttpConnection := do
  let s ← s.sendInLoop s.resp.headers_
  s.sendInLoop s.resp.body_

/-- `loadResponse` has opened the file and read from it. -/
def openFile (s : HttpConnection) (reply : FileReply) : HttpConnection :=
  { s with
    file := reply.content
    position := reply.count.getD 0
    descriptors := s.descriptors ++ [.opened reply.fd] }

/-- `loadResponse` has built the response. -/
def loaded (s : HttpConnection) (reply : FileReply) (retcode : HttpCode) (resp : HttpResponse) :
    HttpConnection :=
  { (if retcode = .fileRequest then s.openFile reply else s) with
    resp := resp, retcodes := s.retcodes ++ [retcode] }

/-- What `onMsg` does with an answer of the decoder. -/
def answer (resourcePath_ : Bytes) (reply : FileReply) (s : HttpConnection) (retcode : HttpCode) :
    Except Fault HttpConnection := do
  let retcode :=
    if retcode = .getRequest then handleRequest resourcePath_ reply.fs s.req else retcode
  let resp ← loadResponse resourcePath_ reply.fs s.req s.resp retcode
  sendResponse (s.loaded reply retcode resp)

/-- `onMsg`, with the readable bytes of the input buffer. -/
def onMsg (resourcePath_ : Bytes) (input : Bytes) (reply : FileReply) (s : HttpConnection) :
    Except Fault HttpConnection :=
  if s.req.checkstate_ = .getAll then .ok s
  else
    let d := s.req.tryDecode input
    match d.result with
    | .error e => .error e
    | .ok retcode =>
      let s := { s with req := d.req }
      if retcode = .noRequest then .ok s else answer resourcePath_ reply s retcode

/-- The response is taken for complete: `clear` closes the descriptor. -/
def finishResponse (s : HttpConnection) : HttpConnection :=
  let close := s.resp.closeConnection_
  let s := { s with
    completions := s.completions ++ [⟨s.peerClosed, s.socket, s.resp.headers_, s.file⟩]
    descriptors :=
      if s.resp.filefd_ ≠ -1 then s.descriptors ++ [.closed s.resp.filefd_] else s.descriptors
    req := s.req.clear
    resp := s.resp.clear }
  if close then { s with pendingTasks_ := s.pendingTasks_ ++ [.closeInLoop] } else s

/-- `sendfile` has put bytes of the file on the socket. -/
def sendfile (s : HttpConnection) (n : ℕ) : HttpConnection :=
  { s with
    socket := s.socket ++ (s.file.drop s.position).take n
    position := s.position + n }

/-- `onWriteComplete`, with what `sendfile` returns: `none` for -1. -/
def onWriteComplete (result : Option ℕ) (s : HttpConnection) : Except Fault HttpConnection :=
  if s.resp.respComplete_ then .ok s.finishResponse
  else if s.req.checkstate_ = .getAll then do
    assertThat (s.resp.filefd_ > 0)
    let s := { s with
      sendfiles := s.sendfiles ++ [(s.completions.length, s.output_.readableBytes)] }
    match result with
    | some (n + 1) => (s.sendfile (n + 1)).sendInLoop []
    | _ => return s.finishResponse
  else .ok s

/-! ## Handlers and tasks -/

/-- `handleClose` and `connectDestroyed`, as far as the connection itself goes. -/
def disconnect (s : HttpConnection) : HttpConnection :=
  { s with connected := false, isWriting := false }

/-- `handleWrite`, with what `write` returns: `none` for -1. -/
def handleWrite (written : Option ℕ) (s : HttpConnection) : Except Fault HttpConnection :=
  if s.isWriting then
    match (if s.output_.readableBytes > 0 then written else some 0) with
    | none => .ok s
    | some n => do
      let output ← s.output_.retrieve n
      let s := { s with output_ := output, socket := s.socket ++ s.output_.readable.take n }
      if output.readableBytes = 0 then
        return { s with
          isWriting := false, pendingTasks_ := s.pendingTasks_ ++ [.onWriteComplete] }
      else return s
  else .ok s

def runTask (result : Option ℕ) (s : HttpConnection) : Except Fault HttpConnection :=
  match s.tasks with
  | [] => .ok s
  | .onWriteComplete :: tasks => onWriteComplete result { s with tasks := tasks }
  | .closeInLoop :: tasks =>
    if s.connected then .ok (disconnect { s with tasks := tasks })
    else .ok { s with tasks := tasks }

/-! ## The connection in its loop -/

inductive Event
  /-- `handleRead` has read bytes and calls `onMsg`. -/
  | read (input : Bytes) (reply : FileReply)
  /-- `handleRead` finds that the peer has closed. -/
  | peerClosed
  | write (written : Option ℕ)
  /-- `doPendingTasks` takes the queue. -/
  | swap
  /-- The next task of the batch runs. -/
  | task (sendfile : Option ℕ)
  /-- Some thread calls `close()`. -/
  | close
  /-- `~TcpServer` calls `connectDestroyed`. -/
  | teardown
  /-- The last pointer to the connection goes. -/
  | destroy

/-- The task keeps the connection alive. -/
def WriteCompleteWaits (s : HttpConnection) : Prop :=
  .onWriteComplete ∈ s.tasks ++ s.pendingTasks_

/-- What `sendfile` may return: some bytes of the file, none only at its end, or -1. -/
def SendfileReturns (s : HttpConnection) (result : Option ℕ) : Prop :=
  ∀ n ∈ result, n ≤ BUFFER_SIZE ∧ s.position + n ≤ s.file.length ∧
    (n = 0 → s.position = s.file.length)

/-- Handlers run between the batches, reads while the channel has the interest. -/
def allowed (s : HttpConnection) : Event → Prop
  | .read _ reply => ¬s.destroyed ∧ s.tasks = [] ∧ s.connected ∧ reply.Regular
  | .peerClosed => ¬s.destroyed ∧ s.tasks = [] ∧ s.connected
  | .write written => ¬s.destroyed ∧ s.tasks = [] ∧ ∀ n ∈ written, n ≤ s.output_.readableBytes
  | .swap => ¬s.destroyed ∧ s.tasks = []
  | .task result => ¬s.destroyed ∧ s.tasks ≠ [] ∧ s.SendfileReturns result
  | .close => ¬s.destroyed
  | .teardown => ¬s.destroyed
  | .destroy => ¬s.destroyed ∧ ¬s.connected ∧ ¬s.WriteCompleteWaits

def exec (resourcePath_ : Bytes) (s : HttpConnection) : Event → Except Fault HttpConnection
  | .read input reply => onMsg resourcePath_ input reply s
  | .peerClosed => .ok { s.disconnect with peerClosed := true }
  | .write written => handleWrite written s
  | .swap => .ok { s with tasks := s.pendingTasks_, pendingTasks_ := [] }
  | .task result => runTask result s
  | .close => .ok { s with pendingTasks_ := s.pendingTasks_ ++ [.closeInLoop] }
  | .teardown => .ok s.disconnect
  | .destroy => .ok { s with destroyed := true }

/-- One connection of a server with the given resource path. -/
def machine (resourcePath_ : Bytes) : Machine HttpConnection Event Fault where
  allowed := allowed
  exec := exec resourcePath_

instance (s : HttpConnection) : Decidable s.WriteCompleteWaits := by
  unfold WriteCompleteWaits
  infer_instance

instance (s : HttpConnection) (result : Option ℕ) : Decidable (s.SendfileReturns result) := by
  unfold SendfileReturns
  infer_instance

instance (s : HttpConnection) (e : Event) : Decidable (allowed s e) := by
  cases e <;> unfold allowed <;> infer_instance

instance (resourcePath_ : Bytes) (s : HttpConnection) (e : Event) :
    Decidable ((machine resourcePath_).allowed s e) :=
  inferInstanceAs (Decidable (allowed s e))

end HttpConnection
end Miniduo
