import Miniduo.EventLoop
import Miniduo.Timer

/-!
# Timers of an event loop

`runAt`, `runEvery` and `cancel` of `EventLoop.cpp`, called by any thread: a call in the loop thread
works on the queue at once, any other puts a task in the loop's queue. Timer callbacks, tasks and
handlers may make calls of their own.
-/

namespace Miniduo

inductive TimerTask
  | addTimer (timer : ℕ)
  | cancelTimer (timer : ℕ)
  | task (cb : ℕ)
deriving Repr, DecidableEq

inductive TimerChannel
  | timerfdChannel
  | other (channel : ℕ)
deriving Repr, DecidableEq

/-- What the loop thread does to a timer. -/
inductive TimerEvent
  /-- `cancelTimer` is executed; `taken` says whether the callback is still to be called by the
  `handleRead` in progress. -/
  | cancelled (timer : ℕ) (taken : Bool)
  /-- The callback is called. -/
  | started (timer : ℕ)
deriving Repr, DecidableEq

/-- A loop with its timers. -/
structure TimerLoop where
  looping : Looping.State TimerTask TimerChannel := {}
  queue : TimerQueue
  log : List TimerEvent := []

namespace TimerLoop

inductive Action
  /-- A step of `loop()`, or a call of `quit()` or of `queueInLoop` with some other task. -/
  | step (a : Looping.Action TimerTask TimerChannel)
  /-- `runAt` or `runEvery` makes a timer and adds it. -/
  | runAt (currentTid : ℤ) (timer : ℕ) (value : Timer)
  | cancel (currentTid : ℤ) (timer : ℕ)
  /-- `TimerQueue::handleRead` calls the next callback. -/
  | run
  /-- `TimerQueue::handleRead` ends. -/
  | reset
  | tick (microseconds : ℕ)

/-- The loop thread is inside a task, a handler or a timer callback of the program. -/
def InUserCode (s : TimerLoop) : Prop :=
  match s.looping.phase with
  | .runningTask (.task _) _ => True
  | .runningHandler (.other _) _ => True
  | .runningHandler .timerfdChannel _ =>
    match s.queue.stage with
    | .firing _ expired rest => rest.length < expired.length
    | .idle => False
  | _ => False

def MayCall (s : TimerLoop) (currentTid : ℤ) : Prop :=
  currentTid = s.looping.thread → s.looping.phase ≠ .idle → s.InUserCode

def InHandleRead (s : TimerLoop) : Prop :=
  match s.looping.phase with
  | .runningHandler .timerfdChannel _ => True
  | _ => False

/-- `addTimer` and `cancelTimer` are only queued by `runAt` and `cancel`, and the handler of the
timerfd ends with `reset`. -/
def MayStep (s : TimerLoop) : Looping.Action TimerTask TimerChannel → Prop
  | .quit currentTid => s.MayCall currentTid
  | .queueInLoop currentTid (.task _) => s.MayCall currentTid
  | .queueInLoop _ _ => False
  | .endHandler => s.queue.stage = .idle
  | _ => True

def allowed (s : TimerLoop) : Action → Prop
  | .step a => s.MayStep a ∧ Looping.allowed s.looping a
  | .runAt currentTid timer _ => s.MayCall currentTid ∧ s.queue.made timer = false
  | .cancel currentTid timer => s.MayCall currentTid ∧ s.queue.made timer = true
  | .run => s.InHandleRead ∧ s.queue.stage.rest ≠ []
  | .reset => s.InHandleRead ∧ s.queue.stage ≠ .idle ∧ s.queue.stage.rest = []
  | .tick _ => True

instance (s : TimerLoop) : Decidable s.InUserCode := by
  unfold InUserCode
  split
  · exact inferInstance
  · exact inferInstance
  · split <;> infer_instance
  · exact inferInstance

instance (s : TimerLoop) : Decidable s.InHandleRead := by
  unfold InHandleRead
  split <;> infer_instance

instance (s : TimerLoop) (currentTid : ℤ) : Decidable (s.MayCall currentTid) := by
  unfold MayCall
  infer_instance

instance (s : TimerLoop) (a : Looping.Action TimerTask TimerChannel) :
    Decidable (s.MayStep a) := by
  unfold MayStep
  split <;> infer_instance

instance (s : TimerLoop) (a : Action) : Decidable (allowed s a) := by
  cases a <;> unfold allowed <;> infer_instance

/-! ## On the loop thread -/

/-- A step of the queue. -/
def onQueue (r : Rounding) (s : TimerLoop) (a : TimerQueue.Action) : Except Fault TimerLoop := do
  let queue ← TimerQueue.exec r s.queue a
  return { s with queue := queue }

def assertInLoopThread (s : TimerLoop) : Except Fault Unit :=
  s.looping.loop.assertInLoopThread s.looping.thread

def addTimer (r : Rounding) (s : TimerLoop) (timer : ℕ) : Except Fault TimerLoop := do
  s.assertInLoopThread
  s.onQueue r (.addTimer timer)

def cancelTimer (r : Rounding) (s : TimerLoop) (timer : ℕ) : Except Fault TimerLoop := do
  s.assertInLoopThread
  let taken := decide (timer ∈ s.queue.stage.rest.map TimerEntry.second)
  let s ← s.onQueue r (.cancelTimer timer)
  return { s with log := s.log ++ [.cancelled timer taken] }

def handleRead (r : Rounding) (s : TimerLoop) : Except Fault TimerLoop := do
  s.assertInLoopThread
  s.onQueue r .handleRead

/-- The task or handler that has just been entered. -/
def begin (r : Rounding) (s : TimerLoop) :
    Looping.Action TimerTask TimerChannel → Except Fault TimerLoop
  | .nextTask =>
    match s.looping.phase with
    | .runningTask (.addTimer timer) _ => s.addTimer r timer
    | .runningTask (.cancelTimer timer) _ => s.cancelTimer r timer
    | _ => .ok s
  | .nextChannel =>
    match s.looping.phase with
    | .runningHandler .timerfdChannel _ => s.handleRead r
    | _ => .ok s
  | _ => .ok s

def queueInLoop (s : TimerLoop) (cb : TimerTask) : TimerLoop :=
  { s with looping := { s.looping with loop := s.looping.loop.queueInLoop cb } }

/-! ## The machine -/

def exec (r : Rounding) (s : TimerLoop) : Action → Except Fault TimerLoop
  | .step a => do
    let looping ← Looping.exec s.looping a
    begin r { s with looping := looping } a
  | .runAt currentTid timer value => do
    let s ← s.onQueue r (.make timer value)
    -- `runInLoop`
    if s.looping.loop.isInLoopThread currentTid then s.addTimer r timer
    else return s.queueInLoop (.addTimer timer)
  | .cancel currentTid timer =>
    if s.looping.loop.isInLoopThread currentTid then s.cancelTimer r timer
    else .ok (s.queueInLoop (.cancelTimer timer))
  | .run =>
    match s.queue.stage.rest with
    | [] => .ok s
    | e :: _ => do
      let s ← s.onQueue r .run
      return { s with log := s.log ++ [.started e.second] }
  | .reset => s.onQueue r .reset
  | .tick microseconds => s.onQueue r (.tick microseconds)

def machine (r : Rounding) : Machine TimerLoop Action Fault where
  allowed := allowed
  exec := exec r

instance (r : Rounding) (s : TimerLoop) (a : Action) : Decidable ((machine r).allowed s a) :=
  inferInstanceAs (Decidable (allowed s a))

/-- A new loop without timers. -/
def start (boot : ℕ) : TimerLoop := { queue := TimerQueue.start boot }

end TimerLoop
end Miniduo
