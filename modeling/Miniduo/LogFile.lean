import Miniduo.Logging

/-!
# Log files

Where the backend of a `Logger` writes: `switchToFileLog`, `tryRotate` and `openNewLogfile` of
`logging.cpp`, around the calls, the backend and the destructor of `Logger.machine`. The kernel's
part is the table of open log files and what is in them. The calendar of `localtime_r` is a
parameter. One thread at a time calls `switchToFileLog`, none while the destructor runs; a process
whose `open` fails has exited.
-/

namespace Miniduo

/-! ## Time strings -/

/-- `struct tm`, as far as it is printed. -/
structure Tm where
  tm_year : ℤ
  tm_mon : ℤ
  tm_mday : ℤ
  tm_hour : ℤ
  tm_min : ℤ
  tm_sec : ℤ
deriving Repr, DecidableEq

/-- `%0*d`: zeros between the sign and the digits. -/
def zeroPad (width : ℕ) (n : ℤ) : Bytes :=
  let sign : Bytes := if n < 0 then [45] else []
  sign ++ List.replicate (width - sign.length - (decimal n.natAbs).length) 48 ++ decimal n.natAbs

/-- `%*d`: spaces in front. -/
def spacePad (width : ℕ) (n : ℤ) : Bytes :=
  List.replicate (width - (decimalInt n).length) 32 ++ decimalInt n

namespace Logger

/-- The text of `timeNow`; `ms` are the milliseconds of the second. -/
def timeNow (timeinfo : Tm) (ms : ℕ) : Bytes :=
  zeroPad 4 (timeinfo.tm_year + 1900) ++ lit "-" ++ zeroPad 2 (timeinfo.tm_mon + 1) ++ lit "-" ++
    zeroPad 2 timeinfo.tm_mday ++ lit " " ++ zeroPad 2 timeinfo.tm_hour ++ lit ":" ++
    zeroPad 2 timeinfo.tm_min ++ lit ":" ++ zeroPad 2 timeinfo.tm_sec ++ lit "." ++ spacePad 3 ms

/-- The part of a log file's name that comes from the time. -/
def stamp (ntm : Tm) : Bytes :=
  decimalInt (ntm.tm_year + 1900) ++ zeroPad 2 (ntm.tm_mon + 1) ++ zeroPad 2 ntm.tm_mday ++
    lit "-" ++ zeroPad 2 ntm.tm_hour ++ zeroPad 2 ntm.tm_min ++ zeroPad 2 ntm.tm_sec

/-- `newname`, in an array of 4096 characters. -/
def newname (fileDir_ fileBaseName_ : Bytes) (ntm : Tm) : Bytes :=
  (cString fileDir_ ++ cString fileBaseName_ ++ lit "." ++ stamp ntm).take 4095

def FILE_SIZE : ℕ := 100 * 1024 * 1024

end Logger

/-! ## The logger with its files -/

/-- Where `switchToFileLog` stands. -/
inductive Switching
  | no
  /-- Behind `openNewLogfile`. -/
  | opened (newfd : ℕ)
  /-- Behind `setfd`. -/
  | set
deriving Repr, DecidableEq

/-- What has been written between two changes of `fd_`: the name of the file, none for the standard
output, and the bytes. -/
structure Section where
  name : Option Bytes
  bytes : Bytes
deriving Repr, DecidableEq

structure LogFile where
  logger : Logger := {}
  fileDir_ : Bytes := lit "log/"
  fileBaseName_ : Bytes := lit "log"
  rotateInterval_ : ℤ := 24 * 60 * 60
  lastRotate_ : ℤ
  fd_ : ℕ := 1
  isfilelog_ : Bool := false
  /-- The backend is in front of `tryRotate`. -/
  checking : Bool := false
  switching : Switching := .no
  /-- The open log files. -/
  fds : ℕ → Option Bytes := fun _ => none
  /-- What is in a file, nothing if there is none. -/
  files : Bytes → Bytes
  past : List Section := []
  current : Section := ⟨none, []⟩

namespace LogFile

inductive Action
  | logger (a : Logger.Action)
  /-- `if(isfilelog_) tryRotate()`: `time` returns `now`, and `open`, if called, `newfd`. -/
  | check (now : ℤ) (newfd : ℕ)
  /-- `switchToFileLog` up to `openNewLogfile`, and its two assignments. -/
  | switch (newfd : ℕ)
  | setfd
  | setfilelog
  | setFileBaseName (basename : Bytes)
  | setRotateInterval (interval : ℤ)
deriving Repr, DecidableEq

section
variable (localtime_r : ℤ → Tm)

def openNewLogfile (l : LogFile) (newfd : ℕ) : Except Fault LogFile := do
  assertThat (0 < l.lastRotate_)
  let name := Logger.newname l.fileDir_ l.fileBaseName_ (localtime_r l.lastRotate_)
  return { l with fds := Function.update l.fds newfd (some name) }

def close (l : LogFile) (fd : ℕ) : LogFile := { l with fds := Function.update l.fds fd none }

def setfd (l : LogFile) (fd : ℕ) : LogFile :=
  { l with fd_ := fd, past := l.past ++ [l.current], current := ⟨l.fds fd, []⟩ }

/-- `tryRotate`. A `fstat` that fails leaves `filestat` as it was, uninitialized. -/
def tryRotate (l : LogFile) (now : ℤ) (newfd : ℕ) : Except Fault LogFile :=
  if !l.isfilelog_ then return l
  else
    let interval := now - l.lastRotate_
    match l.fds l.fd_ with
    | none => .error .outOfBounds
    | some name =>
      if interval < l.rotateInterval_ ∧ (l.files name).length < Logger.FILE_SIZE then return l
      else do
        let l ← ({ l with lastRotate_ := now }.close l.fd_).openNewLogfile localtime_r newfd
        return l.setfd newfd

/-- `switchToFileLog` up to `openNewLogfile`. -/
def switchToFileLog (l : LogFile) (newfd : ℕ) : Except Fault LogFile := do
  assertThat (l.fd_ = 1)
  let l ← l.openNewLogfile localtime_r newfd
  return { l with switching := .opened newfd }

end

/-- The bytes that an action writes. -/
def wrote (l : LogFile) : Logger.Action → Bytes
  | .write ret =>
    match l.logger.backend with
    | .writing buf _ => if ret > 0 then buf.take ret.toNat else []
    | _ => []
  | _ => []

/-- Bytes go to `fd_`, which appends them. -/
def put (l : LogFile) (bytes : Bytes) : LogFile :=
  { l with
    current := { l.current with bytes := l.current.bytes ++ bytes }
    files :=
      match l.fds l.fd_ with
      | none => l.files
      | some name => Function.update l.files name (l.files name ++ bytes) }

/-- What `flush` and the destructor do beside the logger's own step. -/
def follow (l : LogFile) : Logger.Action → LogFile
  | .test => { l with checking := l.logger.backend = .waiting }
  | .join => if l.fd_ ≠ 1 then l.close l.fd_ else l
  | _ => l

/-- A descriptor that `open` may return: the lowest ones are standard input and outputs. -/
def Fresh (l : LogFile) (newfd : ℕ) : Prop := newfd ≠ 1 ∧ l.fds newfd = none

/-- The time is past the epoch. A `write` to a descriptor that is not open fails, and an `open`
succeeds: where it fails the process exits. One thread at a time is in `switchToFileLog`, and none
when the destructor is called. -/
def allowed (l : LogFile) : Action → Prop
  | .logger a => l.logger.allowed a ∧
    match a with
    | .wait | .swap => l.checking = false
    | .write ret => 0 < ret → l.fd_ = 1 ∨ l.fds l.fd_ ≠ none
    | .destroy => l.switching = .no
    | _ => True
  | .check now newfd => l.checking = true ∧ 0 < now ∧ (l.close l.fd_).Fresh newfd
  | .switch newfd => l.switching = .no ∧ l.logger.dtor = .notCalled ∧ l.Fresh newfd
  | .setfd => l.switching ≠ .no ∧ l.switching ≠ .set
  | .setfilelog => l.switching = .set
  | .setFileBaseName _ | .setRotateInterval _ => True

def exec (localtime_r : ℤ → Tm) (l : LogFile) : Action → Except Fault LogFile
  | .logger a => do
    let logger ← l.logger.exec a
    return ({ l.put (l.wrote a) with logger := logger } : LogFile).follow a
  | .check now newfd => ({ l with checking := false } : LogFile).tryRotate localtime_r now newfd
  | .switch newfd => l.switchToFileLog localtime_r newfd
  | .setfd =>
    match l.switching with
    | .opened newfd => return { l.setfd newfd with switching := .set }
    | _ => return l
  | .setfilelog => return { l with isfilelog_ := true, switching := .no }
  | .setFileBaseName basename => return { l with fileBaseName_ := basename }
  | .setRotateInterval interval => return { l with rotateInterval_ := interval }

def machine (localtime_r : ℤ → Tm) : Machine LogFile Action Fault where
  allowed := allowed
  exec := exec localtime_r

/-- A logger that was made at a time, with what is in the files. -/
def initial (now : ℤ) (files : Bytes → Bytes) : LogFile := { lastRotate_ := now, files := files }

instance (l : LogFile) (newfd : ℕ) : Decidable (l.Fresh newfd) := by
  unfold Fresh
  infer_instance

instance (l : LogFile) : ∀ a, Decidable (l.allowed a)
  | .logger (.append timeNow tid msg) =>
    inferInstanceAs (Decidable (l.logger.allowed (.append timeNow tid msg) ∧ True))
  | .logger .test => inferInstanceAs (Decidable (l.logger.allowed .test ∧ True))
  | .logger .wait => inferInstanceAs (Decidable (l.logger.allowed .wait ∧ l.checking = false))
  | .logger .swap => inferInstanceAs (Decidable (l.logger.allowed .swap ∧ l.checking = false))
  | .logger (.write ret) => inferInstanceAs (Decidable (l.logger.allowed (.write ret) ∧
      (0 < ret → l.fd_ = 1 ∨ l.fds l.fd_ ≠ none)))
  | .logger .endWrite => inferInstanceAs (Decidable (l.logger.allowed .endWrite ∧ True))
  | .logger .destroy => inferInstanceAs (Decidable (l.logger.allowed .destroy ∧ l.switching = .no))
  | .logger .stop => inferInstanceAs (Decidable (l.logger.allowed .stop ∧ True))
  | .logger .join => inferInstanceAs (Decidable (l.logger.allowed .join ∧ True))
  | .check now newfd => inferInstanceAs (Decidable
      (l.checking = true ∧ 0 < now ∧ (l.close l.fd_).Fresh newfd))
  | .switch newfd => inferInstanceAs (Decidable
      (l.switching = .no ∧ l.logger.dtor = .notCalled ∧ l.Fresh newfd))
  | .setfd => inferInstanceAs (Decidable (l.switching ≠ .no ∧ l.switching ≠ .set))
  | .setfilelog => inferInstanceAs (Decidable (l.switching = .set))
  | .setFileBaseName _ | .setRotateInterval _ => isTrue trivial

instance (localtime_r : ℤ → Tm) (l : LogFile) (a : Action) :
    Decidable ((machine localtime_r).allowed l a) := inferInstanceAs (Decidable (l.allowed a))

end LogFile
end Miniduo
