import Miniduo.Callbacks
import Miniduo.Http.HttpConnection

/-!
# The callbacks of `HttpServer`

`onMsg` and `onWriteComplete` of `httpserver.cpp` on the context of a connection, with the calls that
they make. `tryDecode` takes what it has read out of the input buffer, before anything is sent.
-/

namespace Miniduo

/-- What `getContext<HttpContext>()` returns, with the file that `filefd_` is open on and the position
in it. -/
structure HttpContext where
  req : HttpRequest := {}
  resp : HttpResponse := {}
  file : Bytes := []
  position : ℕ := 0
deriving DecidableEq

namespace HttpContext

open HttpServer

/-- `loadResponse` has built the response. -/
def loaded (s : HttpContext) (reply : FileReply) (retcode : HttpCode) (resp : HttpResponse) :
    HttpContext :=
  if retcode = .fileRequest then
    { s with resp := resp, file := reply.content, position := reply.count.getD 0 }
  else { s with resp := resp }

/-- What `onMsg` does with an answer of the decoder. -/
def answer (resourcePath_ : Bytes) (reply : FileReply) (s : HttpContext) (retcode : HttpCode) :
    Except Fault HttpContext := do
  let retcode :=
    if retcode = .getRequest then handleRequest resourcePath_ reply.fs s.req else retcode
  let resp ← loadResponse resourcePath_ reply.fs s.req s.resp retcode
  return s.loaded reply retcode resp

def onMsg (resourcePath_ : Bytes) (reply : FileReply) (input : Bytes) (s : HttpContext) :
    Except Fault (HttpContext × List Call) :=
  if s.req.checkstate_ = .getAll then .ok (s, [])
  else
    let d := s.req.tryDecode input
    match d.result with
    | .error e => .error e
    | .ok retcode =>
      let s := { s with req := d.req }
      let taken := Call.retrieve (input.length - d.buf.length)
      if retcode = .noRequest then .ok (s, [taken])
      else do
        let s ← answer resourcePath_ reply s retcode
        return (s, [taken, .send s.resp.headers_, .send s.resp.body_])

/-- The response is taken for complete. -/
def finishResponse (s : HttpContext) : HttpContext × List Call :=
  ({ s with req := s.req.clear, resp := s.resp.clear },
    if s.resp.closeConnection_ then [.close] else [])

/-- `onWriteComplete`, with what `sendfile` returns: `none` for -1. -/
def onWriteComplete (result : Option ℕ) (s : HttpContext) : Except Fault (HttpContext × List Call) :=
  if s.resp.respComplete_ then .ok s.finishResponse
  else if s.req.checkstate_ = .getAll then do
    assertThat (s.resp.filefd_ > 0)
    match result with
    | some (n + 1) => return ({ s with position := s.position + (n + 1) },
        [.sendfile ((s.file.drop s.position).take (n + 1)), .send []])
    | _ => return s.finishResponse
  else .ok (s, [])

/-- What `sendfile` may return: some bytes of the file, none only at its end, or -1. -/
def SendfileReturns (s : HttpContext) (result : Option ℕ) : Prop :=
  ∀ n ∈ result, n ≤ BUFFER_SIZE ∧ s.position + n ≤ s.file.length ∧
    (n = 0 → s.position = s.file.length)

instance (s : HttpContext) (result : Option ℕ) : Decidable (s.SendfileReturns result) := by
  unfold SendfileReturns
  infer_instance

end HttpContext

/-- An `HttpServer` with a resource path. -/
def HttpServer.callbacks (resourcePath_ : Bytes) : Callbacks HttpContext FileReply (Option ℕ) where
  context := {}
  msgCallback_ := HttpContext.onMsg resourcePath_
  writeCompleteCallback_ := some HttpContext.onWriteComplete
  Reads := FileReply.Regular
  Returns := HttpContext.SendfileReturns

end Miniduo
