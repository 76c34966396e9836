import Miniduo.Text
import Miniduo.Lib.Machine

/-!
# `Logger`

The asynchronous logger of `logging.h` and `logging.cpp` as a machine: calls of `append` by any
threads, the backend thread in `flush()`, and the destructor. Each action under the mutex is one
step. Which file descriptor is written to is left out: log files are switched between batches. How a
record comes to `append` is in `logv`, with the text that the C library makes of a format and its
arguments.
-/

namespace Miniduo

/-- Where the backend thread stands in `flush()`. -/
inductive Backend
  /-- At the test of the outer `while` loop. -/
  | top
  /-- In the inner loop, which waits for records. -/
  | waiting
  /-- Behind `unlock()`: what `buf` points to, and `tosend`. -/
  | writing (buf : Bytes) (tosend : ℤ)
  | returned
deriving Repr, DecidableEq

/-- Where the destructor stands. -/
inductive Dtor
  | notCalled
  /-- Called, and not yet in the critical section. -/
  | called
  /-- In `backendThread_.join()`. -/
  | joining
  | returned
deriving Repr, DecidableEq

structure Logger where
  msg_ : Bytes := []
  stopLogging_ : Bool := false
  backend : Backend := .top
  dtor : Dtor := .notCalled
  /-- The records that `append` has added, in order. -/
  appended : List Bytes := []
  /-- How many of them have been swapped out of `msg_`. -/
  taken : ℕ := 0
  /-- How many of them were there when the destructor was called. -/
  before : ℕ := 0
  /-- The bytes that `write` has taken. -/
  written : Bytes := []
deriving Repr, DecidableEq

namespace Logger

/-- The record of a message, with the time and the thread's id. -/
def record (timeNow tid msg : Bytes) : Bytes :=
  lit "[" ++ timeNow ++ lit "]" ++ lit "[" ++ tid ++ lit "]" ++ msg ++ lit "\n"

inductive Action
  /-- A thread appends a record. -/
  | append (timeNow tid msg : Bytes)
  /-- The backend tests `stopLogging_` in the outer loop. -/
  | test
  /-- `wait_for` returns, for whatever reason, and there is nothing to do. -/
  | wait
  /-- The backend leaves the inner loop and swaps. -/
  | swap
  /-- A `write` that returns `ret`. -/
  | write (ret : ℤ)
  /-- The backend leaves the loop around `write`. -/
  | endWrite
  /-- `~Logger` is called. -/
  | destroy
  /-- Its critical section. -/
  | stop
  /-- `join()` returns. -/
  | join
deriving Repr, DecidableEq

/-- `write` takes at most as many bytes as it is given. -/
def allowed (l : Logger) : Action → Prop
  | .append _ _ _ => l.dtor ≠ .returned
  | .test => l.backend = .top
  | .wait => l.backend = .waiting ∧ l.msg_ = [] ∧ l.stopLogging_ = false
  | .swap => l.backend = .waiting ∧ ¬(l.msg_ = [] ∧ l.stopLogging_ = false)
  | .write ret =>
    match l.backend with
    | .writing _ tosend => 0 < tosend ∧ ret ≤ tosend
    | _ => False
  | .endWrite =>
    match l.backend with
    | .writing _ tosend => tosend ≤ 0
    | _ => False
  | .destroy => l.dtor = .notCalled
  | .stop => l.dtor = .called
  | .join => l.dtor = .joining ∧ l.backend = .returned

instance (l : Logger) (a : Action) : Decidable (l.allowed a) := by
  cases a <;> unfold allowed <;> simp only <;> (try split) <;> infer_instance

def append (l : Logger) (timeNow tid msg : Bytes) : Logger :=
  let logmsg := record timeNow tid msg
  { l with msg_ := l.msg_ ++ logmsg, appended := l.appended ++ [logmsg] }

/-- `msg.swap(msg_)`, and `int tosend = msg.size()`. -/
def swap (l : Logger) : Logger :=
  { l with
    msg_ := []
    taken := l.appended.length
    backend := .writing l.msg_ (toInt l.msg_.length) }

def write (l : Logger) (ret : ℤ) : Logger :=
  match l.backend with
  | .writing buf tosend =>
    if ret > 0 then
      { l with
        written := l.written ++ buf.take ret.toNat
        backend := .writing (buf.drop ret.toNat) (tosend - ret) }
    else l
  | _ => l

def exec (l : Logger) : Action → Except Fault Logger
  | .append timeNow tid msg => .ok (l.append timeNow tid msg)
  | .test => .ok { l with backend := if l.stopLogging_ then .returned else .waiting }
  | .wait => .ok l
  | .swap => .ok l.swap
  | .write ret => .ok (l.write ret)
  | .endWrite => .ok { l with backend := .top }
  | .destroy => .ok { l with dtor := .called, before := l.appended.length }
  | .stop => .ok { l with dtor := .joining, stopLogging_ := true }
  | .join => .ok { l with dtor := .returned }

def machine : Machine Logger Action Fault where
  allowed := allowed
  exec := exec

instance (l : Logger) (a : Action) : Decidable (machine.allowed l a) :=
  inferInstanceAs (Decidable (l.allowed a))

/-! ## `logv` -/

inductive LogLevel
  | ALL | TRACE | DEBUG | INFO | WARN | ERROR | FATAL | DISABLE
deriving Repr, DecidableEq

/-- The enumerators, by which levels are compared. -/
def LogLevel.value : LogLevel → ℕ
  | .ALL => 0
  | .TRACE => 1
  | .DEBUG => 2
  | .INFO => 3
  | .WARN => 4
  | .ERROR => 5
  | .FATAL => 6
  | .DISABLE => 7

/-- `char buffer[4096]`, whatever is in it. -/
structure LogBuffer where
  chars : Bytes
  size : chars.length = 4096

lemma LogBuffer.size_stored (buffer : LogBuffer) (text : Bytes) :
    (text.take 4095 ++ 0 :: buffer.chars.drop ((text.take 4095).length + 1)).length = 4096 := by
  have hsize := buffer.size
  have hstored := List.length_take_le 4095 text
  rw [List.length_append, List.length_cons, List.length_drop]
  omega

/-- `vsnprintf(buffer, sizeof(buffer), fmt, args)` for a format and arguments that make `text`, or
none where a conversion fails: at most 4095 characters are stored, with a terminating null behind
them, and the length of the whole text is returned if it is an `int`. -/
def vsnprintf (buffer : LogBuffer) (text : Option Bytes) : LogBuffer × ℤ :=
  match text with
  | none => (buffer, -1)
  | some text =>
    if text.length < 2 ^ 31 then
      (⟨text.take 4095 ++ 0 :: buffer.chars.drop ((text.take 4095).length + 1),
        buffer.size_stored text⟩, text.length)
    else (buffer, -1)

/-- `std::string(buffer, n)`, which takes `n` for a `size_t`. -/
def string (buffer : LogBuffer) (n : ℤ) : Except Fault Bytes :=
  let count := (n % 2 ^ 64).toNat
  if maxSize < count then .error .lengthError
  else if count ≤ buffer.chars.length then .ok (buffer.chars.take count)
  else .error .outOfBounds

def logv (l : Logger) (level_ level : LogLevel) (buffer : LogBuffer) (text : Option Bytes)
    (timeNow tid : Bytes) : Except Fault Logger :=
  if level.value < level_.value then return l
  else do
    let (buffer, n) := vsnprintf buffer text
    let msg ← string buffer n
    return l.append timeNow tid msg

/-- The macro `log`, which compares the levels itself before it calls `logv`. -/
def log (l : Logger) (level_ level : LogLevel) (buffer : LogBuffer) (text : Option Bytes)
    (timeNow tid : Bytes) : Except Fault Logger :=
  if level_.value ≤ level.value then l.logv level_ level buffer text timeNow tid else return l

/-- The text that the macro makes of a message: `levelstr "[%s:%d][%s]: "` stands in front, for
`__FILE__`, `__LINE__` and `__FUNCTION__`. -/
def logText (levelstr file : Bytes) (line : ℕ) (function message : Bytes) : Bytes :=
  levelstr ++ lit "[" ++ file ++ lit ":" ++ decimal line ++ lit "][" ++ function ++ lit "]: " ++
    message

end Logger
end Miniduo
