import Mathlib.Data.Prod.Lex
import Mathlib.Algebra.Order.Floor.Ring
import Mathlib.Data.Rat.Floor
import Miniduo.Basic
import Miniduo.Lib.Machine
import Miniduo.Lib.OrderedSet

/-!
# `TimerQueue`

The timers of `timer.h` and `timer.cpp`. Timers live in a heap, and the queue orders pointers to
them by expiration. Time stamps are microseconds since the epoch, and their differences are exact.
The timerfd and the system clock run at the same rate.
-/

namespace Miniduo

/-- The rounding of `double` arithmetic. -/
structure Rounding where
  round : ℚ → ℚ
  mono : Monotone round
  zero : round 0 = 0
  one : round 1 = 1

/-- Arithmetic that does not round. -/
def Rounding.exact : Rounding := ⟨id, monotone_id, rfl, rfl⟩

structure Timer where
  expiration_ : ℤ
  interval_ : ℚ
deriving DecidableEq

namespace Timer

def repeats (timer : Timer) : Bool := decide (0 < timer.interval_)

def setUnrepeat (timer : Timer) : Timer := { timer with interval_ := 0 }

/-- A `double` converted to an integer. -/
def truncate (x : ℚ) : ℤ := if 0 ≤ x then ⌊x⌋ else ⌈x⌉

def restart (r : Rounding) (now : ℤ) (timer : Timer) : Timer :=
  { timer with expiration_ :=
      if timer.repeats then
        truncate (r.round (r.round now + r.round (timer.interval_ * 1000000)))
      else 0 }

end Timer

/-- An expiration and the address of a timer. -/
abbrev TimerEntry : Type := Lex (ℤ × ℕ)

namespace TimerEntry

def of (when : ℤ) (timer : ℕ) : TimerEntry := toLex (when, timer)

def first (e : TimerEntry) : ℤ := (ofLex e).1
def second (e : TimerEntry) : ℕ := (ofLex e).2

end TimerEntry

/-- A timerfd that has been set. -/
structure Arming where
  armedAt : ℤ
  deadline : ℤ
deriving DecidableEq

structure ItimerSpec where
  tv_sec : ℤ
  tv_nsec : ℤ
deriving DecidableEq

/-- Where `handleRead` stands: outside, or between its callbacks, with its `now`, the expired
entries and those whose callbacks have not been called yet. -/
inductive TimerStage
  | idle
  | firing (now : ℤ) (expired rest : List TimerEntry)
deriving DecidableEq

/-- The entries whose callbacks are still to be called. -/
def TimerStage.rest : TimerStage → List TimerEntry
  | .idle => []
  | .firing _ _ rest => rest

/-- A `TimerQueue` with the timers it points to. -/
structure TimerQueue where
  timers_ : OrderedSet TimerEntry := .empty
  /-- How the timerfd was set, unless it has expired and been read since. -/
  timerfd : Option Arming := none
  heap : ℕ → Timer := fun _ => ⟨0, 0⟩
  /-- The addresses at which `runAt` and `runEvery` have made a timer. -/
  made : ℕ → Bool := fun _ => false
  /-- The timers that `addTimer` has been called with. -/
  added : ℕ → Bool := fun _ => false
  stage : TimerStage := .idle
  /-- `getTimeOfNow()`. -/
  clock : ℤ

namespace TimerQueue

/-! ## The timerfd -/

/-- `timerfd_settime` with a relative time; zero disarms. -/
def settime (q : TimerQueue) (newValue : ItimerSpec) : TimerQueue :=
  { q with timerfd :=
      if newValue = ⟨0, 0⟩ then none
      else some ⟨q.clock, q.clock + newValue.tv_sec * 1000000 + newValue.tv_nsec / 1000⟩ }

def resetTimerfd (q : TimerQueue) (expiration : ℤ) : TimerQueue :=
  let microseconds := expiration - q.clock
  let microseconds := if microseconds < 100 then 100 else microseconds
  q.settime ⟨microseconds / 1000000, microseconds % 1000000 * 1000⟩

/-- A timerfd that has not expired is left as it is. -/
def readTimerfd (q : TimerQueue) : TimerQueue :=
  { q with timerfd := q.timerfd.filter (q.clock < ·.deadline) }

/-! ## The operations -/

def insert (q : TimerQueue) (timer : ℕ) : Except Fault (Bool × TimerQueue) := do
  let when := (q.heap timer).expiration_
  let earliestChanged :=
    match q.timers_.first? with
    | none => true
    | some e => decide (when < e.first)
  assertThat (.of when timer ∉ q.timers_)
  return (earliestChanged, { q with timers_ := q.timers_.insert (.of when timer) })

def addTimer (q : TimerQueue) (timer : ℕ) : Except Fault TimerQueue := do
  let when := (q.heap timer).expiration_
  let (earliestChanged, q) ← q.insert timer
  return if earliestChanged then q.resetTimerfd when else q

def setTimer (q : TimerQueue) (timer : ℕ) (value : Timer) : TimerQueue :=
  { q with heap := Function.update q.heap timer value }

/-- A timer that no pointer reaches any more is left in the heap, where nothing sees it. -/
def cancelTimer (q : TimerQueue) (timer : ℕ) : TimerQueue :=
  let timerEntry := .of (q.heap timer).expiration_ timer
  if timerEntry ∈ q.timers_ then { q with timers_ := q.timers_.erase timerEntry }
  else q.setTimer timer (q.heap timer).setUnrepeat

def getExpired (q : TimerQueue) (now : ℤ) :
    Except Fault (List TimerEntry × TimerQueue) := do
  let sentry := .of (now + 1) 0
  let rest := q.timers_.onwards sentry
  assertThat (rest.first?.all (now < ·.first))
  return (q.timers_.below sentry, { q with timers_ := rest })

/-- The `for` loop of `reset`. -/
def resetLoop (r : Rounding) (now : ℤ) :
    List TimerEntry → TimerQueue → Except Fault TimerQueue
  | [], q => .ok q
  | e :: expired, q =>
    if (q.heap e.second).repeats then do
      let q := q.setTimer e.second ((q.heap e.second).restart r now)
      let (_, q) ← q.insert e.second
      resetLoop r now expired q
    else resetLoop r now expired q

def reset (r : Rounding) (q : TimerQueue) (expired : List TimerEntry) (now : ℤ) :
    Except Fault TimerQueue := do
  let q ← resetLoop r now expired q
  let nextExpire :=
    match q.timers_.first? with
    | none => 0
    | some e => (q.heap e.second).expiration_
  return if nextExpire > 0 then q.resetTimerfd nextExpire else q

/-- `handleRead` up to its callbacks. -/
def handleRead (q : TimerQueue) : Except Fault TimerQueue := do
  let now := q.clock
  let q := q.readTimerfd
  let (expired, q) ← q.getExpired now
  return { q with stage := .firing now expired expired }

/-! ## The queue in its loop -/

/-- What happens to the queue, on the loop thread but for `make`. -/
inductive Action
  /-- `make_shared<Timer>`, in any thread. -/
  | make (timer : ℕ) (value : Timer)
  | addTimer (timer : ℕ)
  | cancelTimer (timer : ℕ)
  | handleRead
  /-- `handleRead` calls the next callback. -/
  | run
  /-- The last callback has returned. -/
  | reset
  | tick (microseconds : ℕ)

/-- Every timer that is made is added once; its address is not used again. `addTimer` and
`cancelTimer` are also called by callbacks. -/
def allowed (q : TimerQueue) : Action → Prop
  | .make timer _ => q.made timer = false
  | .addTimer timer => q.made timer = true ∧ q.added timer = false
  | .cancelTimer timer => q.made timer = true
  | .handleRead => q.stage = .idle
  | .run => q.stage.rest ≠ []
  | .reset => q.stage ≠ .idle ∧ q.stage.rest = []
  | .tick _ => True

instance (q : TimerQueue) (a : Action) : Decidable (allowed q a) := by
  cases a <;> unfold allowed <;> infer_instance

def exec (r : Rounding) (q : TimerQueue) : Action → Except Fault TimerQueue
  | .make timer value =>
    .ok { q.setTimer timer value with made := Function.update q.made timer true }
  | .addTimer timer => do
    let q ← q.addTimer timer
    return { q with added := Function.update q.added timer true }
  | .cancelTimer timer => .ok (q.cancelTimer timer)
  | .handleRead => q.handleRead
  | .run =>
    match q.stage with
    | .firing now expired (_ :: rest) => .ok { q with stage := .firing now expired rest }
    | _ => .ok q
  | .reset =>
    match q.stage with
    | .firing now expired _ => do
      let q ← q.reset r expired now
      return { q with stage := .idle }
    | .idle => .ok q
  | .tick microseconds => .ok { q with clock := q.clock + microseconds }

def machine (r : Rounding) : Machine TimerQueue Action Fault where
  allowed := allowed
  exec := exec r

instance (r : Rounding) (q : TimerQueue) (a : Action) : Decidable ((machine r).allowed q a) :=
  inferInstanceAs (Decidable (allowed q a))

/-- A new queue. The clock is past the epoch. -/
def start (boot : ℕ) : TimerQueue := { clock := boot + 1 }

end TimerQueue
end Miniduo
