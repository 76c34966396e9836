import Miniduo.Http.HttpMsg
import Miniduo.Lib.Machine

/-!
# `HttpServer`

The server of `httpserver.h` and `httpserver.cpp` on one connection: the response that
`loadResponse` builds, the callbacks `onMsg` and `onWriteComplete`, and the part of the connection
that decides when the event loop makes these calls. What the file system answers is a parameter of
each call.
-/

namespace Miniduo

/-! ## `HttpResponse` -/

structure HttpResponse where
  headers_ : Bytes := []
  body_ : Bytes := []
  closeConnection_ : Bool := true
  respComplete_ : Bool := false
  filefd_ : ℤ := -1
deriving DecidableEq

namespace HttpResponse

def clear (resp : HttpResponse) : HttpResponse :=
  { resp with
    headers_ := []
    body_ := []
    closeConnection_ := true
    respComplete_ := false
    filefd_ := -1 }

/-- The reason phrase and the body of a status; an unknown status is entered as empty. -/
def responseStatus (status : ℕ) : Bytes × Bytes :=
  if status = 200 then (lit "OK", [])
  else if status = 400 then (lit "Bad Request",
    lit "Your request has bad syntax or is inherently impossible to staisfy.\n")
  else if status = 403 then (lit "Forbidden",
    lit "You do not have permission to get file form this server.\n")
  else if status = 404 then (lit "Not Found",
    lit "The requested file was not found on this server.\n")
  else if status = 500 then (lit "Internal Error",
    lit "There was an unusual problem serving the request file.\n")
  else ([], [])

/-- `headersAppend(format, ...)` on the formatted text: `vsnprintf` writes it into an array of 2048
zero bytes, and the whole array is appended. -/
def headersAppend (resp : HttpResponse) (text : Bytes) : HttpResponse :=
  let buf := text.take 2047 ++ List.replicate (2048 - (text.take 2047).length) 0
  { resp with headers_ := resp.headers_ ++ buf }

def addStatusLine (resp : HttpResponse) (status : ℕ) : HttpResponse :=
  resp.headersAppend
    (lit "HTTP/1.1 " ++ decimal status ++ 32 :: (responseStatus status).1 ++ [CR, LF])

def addContentLength (resp : HttpResponse) (len : ℤ) : HttpResponse :=
  resp.headersAppend (lit "Content-Length:" ++ decimalInt len ++ [CR, LF])

def addBlankLine (resp : HttpResponse) : HttpResponse := resp.headersAppend [CR, LF]

def addHeaders (resp : HttpResponse) (len : ℤ) : HttpResponse :=
  (resp.addContentLength len).addBlankLine

def addBody (resp : HttpResponse) (content : Bytes) : HttpResponse :=
  { resp with body_ := resp.body_ ++ content }

end HttpResponse

/-! ## The file system -/

/-- What `stat` reports. -/
structure FileStat where
  /-- `st_mode & S_IROTH`. -/
  readable : Bool
  /-- `S_ISDIR(st_mode)`. -/
  isDir : Bool
deriving DecidableEq

/-- What the system calls of one `onMsg` return. -/
structure FileSystem where
  stat : Bytes → Option FileStat
  openFile : Bytes → ℤ
  /-- `st_size` behind `fstat`, whose result is not looked at: where it fails, this is what the
  uninitialized structure held. -/
  size : ℤ → ℤ
  /-- The bytes of one `read`, `none` when it returns -1. -/
  readFile : ℤ → Option Bytes

namespace HttpServer

/-! ## Building a response -/

def handleRequest (resourcePath_ : Bytes) (fs : FileSystem) (req : HttpRequest) : HttpCode :=
  match fs.stat (resourcePath_ ++ req.URL_) with
  | none => .noResource
  | some fileStat =>
    if !fileStat.readable then .forbiddenRequest
    else if fileStat.isDir then .badRequest
    else .fileRequest

def loadFailResponse (resp : HttpResponse) (status : ℕ) : HttpResponse :=
  let resp := resp.addStatusLine status
  let resp := resp.addHeaders (HttpResponse.responseStatus status).2.length
  let resp := resp.addBody (HttpResponse.responseStatus status).2
  { resp with respComplete_ := true }

def loadResponse (resourcePath_ : Bytes) (fs : FileSystem) (req : HttpRequest)
    (resp : HttpResponse) (retcode : HttpCode) : Except Fault HttpResponse :=
  match retcode with
  | .internalError => .ok (loadFailResponse resp 500)
  | .badRequest => .ok (loadFailResponse resp 400)
  | .forbiddenRequest => .ok (loadFailResponse resp 403)
  | .noResource => .ok (loadFailResponse resp 404)
  | .fileRequest => do
    let filefd := fs.openFile (resourcePath_ ++ req.URL_)
    let resp : HttpResponse := { resp with filefd_ := filefd }
    assertThat (resp.filefd_ > 0)
    let resp := (resp.addStatusLine 200).addHeaders (toInt (fs.size resp.filefd_))
    match fs.readFile resp.filefd_ with
    | none => .error .assertFailed
    | some [] => return resp
    | some buf =>
      let resp := resp.addBody buf
      return { resp with respComplete_ := !decide ((buf.length : ℤ) < fs.size resp.filefd_) }
  | _ => .ok resp

/-! ## One connection -/

/-- Tasks of the connection that wait in its event loop. -/
inductive SessionTask
  | onWriteComplete | closeInLoop
deriving Repr, DecidableEq

/-- A request that was answered: the code that `loadResponse` got, the request and what the system
calls returned. -/
structure Answer where
  retcode : HttpCode
  req : HttpRequest
  fs : FileSystem

/-- A connection of the server. `sent` and `answers` record the messages passed to `conn->send` and
the requests answered, in order. -/
structure Session where
  req : HttpRequest := {}
  resp : HttpResponse := {}
  input_ : Bytes := []
  output_ : Bytes := []
  /-- Write interest on the connection's channel. -/
  isWriting : Bool := false
  /-- The connection has been closed: its channel has no interest any more. -/
  disconnected : Bool := false
  pendingTasks_ : List SessionTask := []
  /-- What is left of the batch that `doPendingTasks` is running. -/
  tasks : List SessionTask := []
  sent : List Bytes := []
  answers : List Answer := []

/-- `conn->send`, from the loop's own thread. -/
def send (s : Session) (msg : Bytes) : Session :=
  let s := { s with sent := s.sent ++ [msg] }
  if s.disconnected then s else { s with output_ := s.output_ ++ msg, isWriting := true }

/-- `decodeHttpRequest`. -/
def decodeHttpRequest (s : Session) : Except Fault (HttpCode × Session) :=
  if s.req.checkstate_ = .getAll then .ok (.noRequest, s)
  else
    let d := s.req.tryDecode s.input_
    match d.result with
    | .ok retcode => .ok (retcode, { s with req := d.req, input_ := d.buf })
    | .error e => .error e

def sendResponse (s : Session) : Session := send (send s s.resp.headers_) s.resp.body_

def onMsg (resourcePath_ : Bytes) (fs : FileSystem) (s : Session) : Except Fault Session := do
  let (retcode, s) ← decodeHttpRequest s
  if retcode = .noRequest then return s
  else
    let retcode := if retcode = .getRequest then handleRequest resourcePath_ fs s.req else retcode
    let resp ← loadResponse resourcePath_ fs s.req s.resp retcode
    let s := { s with resp := resp, answers := s.answers ++ [⟨retcode, s.req, fs⟩] }
    return sendResponse s

/-- The response is over: both messages are cleared and the connection closes in a later task. -/
def finishResponse (s : Session) : Session :=
  let close := s.resp.closeConnection_
  let s := { s with req := s.req.clear, resp := s.resp.clear }
  if close then { s with pendingTasks_ := s.pendingTasks_ ++ [.closeInLoop] } else s

/-- `onWriteComplete`, with what `conn->sendfile` returns. -/
def onWriteComplete (sendfile : ℤ) (s : Session) : Except Fault Session :=
  if s.resp.respComplete_ then .ok (finishResponse s)
  else if s.req.checkstate_ = .getAll then do
    assertThat (s.resp.filefd_ > 0)
    if sendfile > 0 then return send s []
    else return finishResponse s
  else .ok s

/-! ## The event loop on the connection -/

/-- What the event loop does with the connection next. -/
inductive Event
  /-- `handleRead` reads bytes and calls `onMsg`. -/
  | read (data : Bytes) (fs : FileSystem)
  /-- `handleRead` finds that the peer has closed. -/
  | peerClosed
  /-- `handleWrite`, of which `write` takes `n` bytes. -/
  | write (n : ℕ)
  /-- `doPendingTasks` takes the queue. -/
  | swap
  /-- The next task of the batch runs; `sendfile` is what `conn->sendfile` returns in it. -/
  | task (sendfile : ℤ)

/-- Handlers run between the batches, while the channel has the interest. -/
def allowed (s : Session) : Event → Prop
  | .read data _ => s.tasks = [] ∧ ¬s.disconnected ∧ data ≠ []
  | .peerClosed => s.tasks = [] ∧ ¬s.disconnected
  | .write n => s.tasks = [] ∧ s.isWriting ∧ n ≤ s.output_.length
  | .swap => s.tasks = []
  | .task _ => s.tasks ≠ []

instance (s : Session) (e : Event) : Decidable (allowed s e) := by
  cases e <;> unfold allowed <;> infer_instance

def handleClose (s : Session) : Session := { s with disconnected := true, isWriting := false }

def handleWrite (n : ℕ) (s : Session) : Session :=
  let s := { s with output_ := s.output_.drop n }
  if s.output_ = [] then
    { s with isWriting := false, pendingTasks_ := s.pendingTasks_ ++ [.onWriteComplete] }
  else s

def runTask (sendfile : ℤ) (s : Session) : Except Fault Session :=
  match s.tasks with
  | [] => .ok s
  | .onWriteComplete :: tasks => onWriteComplete sendfile { s with tasks := tasks }
  | .closeInLoop :: tasks =>
    if s.disconnected then .ok { s with tasks := tasks }
    else .ok (handleClose { s with tasks := tasks })

def exec (resourcePath_ : Bytes) (s : Session) : Event → Except Fault Session
  | .read data fs => onMsg resourcePath_ fs { s with input_ := s.input_ ++ data }
  | .peerClosed => .ok (handleClose s)
  | .write n => .ok (handleWrite n s)
  | .swap => .ok { s with tasks := s.pendingTasks_, pendingTasks_ := [] }
  | .task sendfile => runTask sendfile s

/-- One connection of a server with the given resource path. -/
def machine (resourcePath_ : Bytes) : Machine Session Event Fault where
  allowed := allowed
  exec := exec resourcePath_

instance (resourcePath_ : Bytes) (s : Session) (e : Event) :
    Decidable ((machine resourcePath_).allowed s e) :=
  inferInstanceAs (Decidable (allowed s e))

end HttpServer
end Miniduo
