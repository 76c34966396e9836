import Mathlib.Data.Finmap
import Miniduo.Text
import Miniduo.Lib.Separator

/-!
# `HttpRequest`

The incremental request decoder of `httpmsg.h` and `httpmsg.cpp`. The buffer it reads is its
readable byte string. Calls run in `DecodeM`, which keeps the request and the buffer as they are
when an exception leaves the call.
-/

namespace Miniduo

inductive CheckState
  | expectRequestline | expectHeader | expectContent | getAll
deriving Repr, DecidableEq

inductive LineStatus
  | lineOk | lineBad | lineOpen
deriving Repr, DecidableEq

inductive HttpCode
  | noRequest | getRequest | badRequest | noResource | forbiddenRequest | fileRequest
  | internalError | closedConnection
deriving Repr, DecidableEq

inductive Method
  | invalid | get | head | post | put | delete | trace | options | connect | patch
deriving Repr, DecidableEq

inductive Version
  | invalid | http10 | http11
deriving Repr, DecidableEq

/-- Carriage return and line feed, the bytes of `Buffer::kCRLF`. -/
def CR : Byte := 13
def LF : Byte := 10

/-- `Buffer::findCRLF`, as an offset from `beginRead()`. -/
def findCRLF (buf : Bytes) : Option ℕ := Separator.findPair CR LF buf

structure HttpRequest where
  checkstate_ : CheckState := .expectRequestline
  methodType_ : Method := .invalid
  method_ : Bytes := []
  URL_ : Bytes := []
  query_ : Bytes := []
  versionType_ : Version := .invalid
  version_ : Bytes := []
  headers_ : Finmap fun _ : Bytes => Bytes := ∅
  contentLength_ : ℤ := 0
  content_ : Bytes := []
deriving DecidableEq

namespace HttpRequest

def clear (req : HttpRequest) : HttpRequest :=
  { req with
    checkstate_ := .expectRequestline
    methodType_ := .invalid
    method_ := []
    URL_ := []
    query_ := []
    versionType_ := .invalid
    version_ := []
    headers_ := ∅
    contentLength_ := 0
    content_ := [] }

def supportedMethods (method : Bytes) : Option Method :=
  if method = lit "GET" then some .get
  else if method = lit "POST" then some .post
  else none

def supportedVersions (version : Bytes) : Option Version :=
  if version = lit "HTTP/1.0" then some .http10
  else if version = lit "HTTP/1.1" then some .http11
  else if version = lit "http/1.0" then some .http10
  else if version = lit "http/1.1" then some .http11
  else none

/-! ## Calls on the request and the buffer -/

/-- A member function of `HttpRequest` called with a buffer. -/
abbrev DecodeM (α : Type) : Type := ExceptT Fault (StateM (HttpRequest × Bytes)) α

/-- What a call leaves behind: its result or exception, the request and the unread bytes. -/
structure Decoded where
  result : Except Fault HttpCode
  req : HttpRequest
  buf : Bytes
deriving DecidableEq

def getBuf : DecodeM Bytes := return (← get).2
def setBuf (buf : Bytes) : DecodeM Unit := modify fun s => (s.1, buf)
def getReq : DecodeM HttpRequest := return (← get).1
def modifyReq (f : HttpRequest → HttpRequest) : DecodeM Unit := modify fun s => (f s.1, s.2)
def liftFault {α : Type} (x : Except Fault α) : DecodeM α := ExceptT.mk (pure x)

def parseLine (buf : Bytes) : LineStatus :=
  if (findCRLF buf).isSome then .lineOk
  else if LF ∈ buf then .lineBad
  else .lineOpen

def retrieveLine : DecodeM Bytes := do
  let buf ← getBuf
  match findCRLF buf with
  | none => liftFault (.error .assertFailed)
  | some crlf =>
    setBuf (buf.drop (crlf + 2))
    return buf.take crlf

def parseRequstline : DecodeM HttpCode := do
  let line ← retrieveLine
  let (method, ss) := extractWord line
  let (URL, ss) := extractWord ss
  let (version, _) := extractWord ss
  match supportedMethods method with
  | none => return .badRequest
  | some methodType =>
    modifyReq fun req => { req with method_ := method, methodType_ := methodType }
    -- `URL.find("http://") == 0`
    let URL ← liftFault
      (if (lit "http://").isPrefixOf URL then substr URL 7 (URL.length - 7) else .ok URL)
    match URL.idxOf? 47 with
    | none => return .badRequest
    | some idx =>
      let URL ← liftFault (substr URL idx (URL.length - idx))
      match URL.idxOf? 63 with
      | some idx =>
        let path ← liftFault (substr URL 0 idx)
        modifyReq fun req => { req with URL_ := path }
        let query ← liftFault (substr URL (idx + 1) (URL.length - (idx + 1)))
        modifyReq fun req => { req with query_ := query }
      | none => modifyReq fun req => { req with URL_ := URL }
      match supportedVersions version with
      | none => return .badRequest
      | some versionType =>
        modifyReq fun req => { req with
          version_ := version, versionType_ := versionType, checkstate_ := .expectHeader }
        return .noRequest

def parseHeaders : DecodeM HttpCode := do
  let line ← retrieveLine
  if line = [] then
    let req ← getReq
    if lit "Content-length" ∈ req.headers_ ∧ req.contentLength_ > 0 then
      modifyReq fun req => { req with checkstate_ := .expectContent }
      return .noRequest
    else
      modifyReq fun req => { req with checkstate_ := .getAll }
      return .getRequest
  else
    match line.idxOf? 58 with
    | some idx =>
      let field ← liftFault (substr line 0 idx)
      -- past `:` and the space
      let value ← liftFault (substr line (idx + 2) (line.length - (idx + 2)))
      modifyReq fun req => { req with headers_ := req.headers_.insert field value }
      if field = lit "Content-length" then
        let length ← liftFault (stoi value)
        modifyReq fun req => { req with contentLength_ := length }
    | none => pure () -- "Unkown header"
    return .noRequest

/-- An `int` used where a `size_t` is expected. -/
def toSize (n : ℤ) : ℕ := (n % 2 ^ 64).toNat

def parseContent : DecodeM HttpCode := do
  let buf ← getBuf
  let contentLength := toSize (← getReq).contentLength_
  if buf.length < contentLength then
    return .noRequest
  else
    modifyReq fun req => { req with content_ := buf.take contentLength }
    setBuf (buf.drop contentLength)
    modifyReq fun req => { req with checkstate_ := .getAll }
    return .getRequest

/-- The `while` loop of `tryDecode`. -/
def tryDecodeLoop : ℕ → LineStatus → DecodeM HttpCode
  | 0, _ => liftFault (.error .diverges)
  | fuel + 1, linestatus => do
    let finish (linestatus : LineStatus) : DecodeM HttpCode :=
      if linestatus = .lineOpen then return .noRequest else return .badRequest
    match (← getReq).checkstate_ with
    | .getAll => finish linestatus
    | .expectRequestline =>
      let linestatus := parseLine (← getBuf)
      if linestatus = .lineOk then
        let retcode ← parseRequstline
        if retcode = .badRequest then return .badRequest
        else tryDecodeLoop fuel linestatus
      else finish linestatus
    | .expectHeader =>
      let linestatus := parseLine (← getBuf)
      if linestatus = .lineOk then
        let retcode ← parseHeaders
        if retcode = .badRequest then return .badRequest
        else if retcode = .getRequest then return .getRequest
        else tryDecodeLoop fuel linestatus
      else finish linestatus
    | .expectContent =>
      let retcode ← parseContent
      if retcode = .getRequest then return .getRequest
      else return .noRequest

/-- A call made on a request and a readable byte string. -/
def DecodeM.call {α : Type} (x : DecodeM α) (req : HttpRequest) (buf : Bytes) :
    Except Fault α × HttpRequest × Bytes :=
  (x.run.run (req, buf)).run

/-- `tryDecode`. Every round of the loop but the last consumes a line, so the buffer's length
bounds the number of rounds. -/
def tryDecode (req : HttpRequest) (buf : Bytes) : Decoded :=
  let (result, req, buf) := (tryDecodeLoop (buf.length + 1) .lineOk).call req buf
  ⟨result, req, buf⟩

end HttpRequest
end Miniduo
