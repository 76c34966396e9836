import Miniduo.Basic
import Miniduo.Lib.Machine

/-!
# `EventLoop`

The state and the thread checks of `EventLoop.h` and `EventLoop.cpp`, and `loop()` as a machine:
each step of `loop()` is an action of the looping thread, and between any two of them other threads
may call `quit()` and `queueInLoop()`.
-/

namespace Miniduo

/-- The part of an `EventLoop` that its thread checks and its task queue read. -/
structure EventLoop (τ : Type) where
  stoplooping_ : Bool := true
  tid_ : ℤ := -1
  pendingTasks_ : List τ := []
  /-- What has been written to the eventfd and not been read. -/
  wakeups : ℕ := 0
deriving Repr, DecidableEq

namespace EventLoop

variable {τ : Type}

def isInLoopThread (loop : EventLoop τ) (currentTid : ℤ) : Bool :=
  if !loop.stoplooping_ then loop.tid_ == currentTid else false

def assertInLoopThread (loop : EventLoop τ) (currentTid : ℤ) : Except Fault Unit :=
  if !loop.isInLoopThread currentTid then .error .notInLoopThread else .ok ()

def settid (loop : EventLoop τ) (tid : ℤ) : EventLoop τ := { loop with tid_ := tid }

def wakeup (loop : EventLoop τ) : EventLoop τ := { loop with wakeups := loop.wakeups + 1 }

/-- `handleRead` of the wakeup channel. -/
def handleRead (loop : EventLoop τ) : EventLoop τ := { loop with wakeups := 0 }

def quit (loop : EventLoop τ) (currentTid : ℤ) : EventLoop τ :=
  if !loop.isInLoopThread currentTid then ({ loop with stoplooping_ := true } : EventLoop τ).wakeup
  else { loop with stoplooping_ := true }

def queueInLoop (loop : EventLoop τ) (cb : τ) : EventLoop τ :=
  ({ loop with pendingTasks_ := loop.pendingTasks_ ++ [cb] } : EventLoop τ).wakeup

/-- The `swap` of `doPendingTasks`: the batch, and the loop with an empty queue. -/
def swapTasks (loop : EventLoop τ) : List τ × EventLoop τ :=
  (loop.pendingTasks_, { loop with pendingTasks_ := [] })

@[simp] lemma quit_stoplooping (loop : EventLoop τ) (tid : ℤ) :
    (loop.quit tid).stoplooping_ = true := by
  unfold quit
  split <;> rfl

@[simp] lemma quit_tid (loop : EventLoop τ) (tid : ℤ) : (loop.quit tid).tid_ = loop.tid_ := by
  unfold quit
  split <;> rfl

@[simp] lemma queueInLoop_stoplooping (loop : EventLoop τ) (cb : τ) :
    (loop.queueInLoop cb).stoplooping_ = loop.stoplooping_ := rfl

@[simp] lemma queueInLoop_tid (loop : EventLoop τ) (cb : τ) :
    (loop.queueInLoop cb).tid_ = loop.tid_ := rfl

lemma isInLoopThread_iff (loop : EventLoop τ) (tid : ℤ) :
    loop.isInLoopThread tid = true ↔ loop.stoplooping_ = false ∧ loop.tid_ = tid := by
  unfold isInLoopThread
  cases loop.stoplooping_ <;> simp

lemma assertInLoopThread_eq_ok (loop : EventLoop τ) (tid : ℤ) :
    loop.assertInLoopThread tid = .ok () ↔ loop.isInLoopThread tid = true := by
  unfold assertInLoopThread
  cases loop.isInLoopThread tid <;> simp

end EventLoop

/-! ## `loop()` step by step -/

namespace Looping

variable {τ κ : Type}

/-- Where the thread that called `loop()` stands; `τ` are tasks and `κ` active channels. -/
inductive Phase (τ κ : Type)
  /-- Outside `loop()`. -/
  | idle
  /-- Behind `settid`. -/
  | entered
  /-- Behind `stoplooping_ = false`. -/
  | cleared
  /-- At the test of the `while` loop. -/
  | top
  /-- In the body, in front of the `swap` of `doPendingTasks`. -/
  | body
  /-- Between two tasks of the batch. -/
  | tasks (rest : List τ)
  | runningTask (task : τ) (rest : List τ)
  /-- Between two channels of `activeChannels_`. -/
  | channels (rest : List κ)
  | runningHandler (channel : κ) (rest : List κ)
deriving Repr, DecidableEq

/-- The loop, the thread that runs it and where that thread stands. -/
structure State (τ κ : Type) where
  loop : EventLoop τ := {}
  thread : ℤ := -1
  phase : Phase τ κ := .idle
deriving Repr, DecidableEq

inductive Action (τ κ : Type)
  /-- A thread calls `loop()`: the assertion and `settid`. -/
  | call (thread : ℤ)
  | clearStop
  /-- `assertInLoopThread()` in front of the `while` loop. -/
  | assertEntry
  | test
  | swap
  | nextTask
  | endTask
  /-- `poll` fills `activeChannels_`. -/
  | poll (activeChannels : List κ)
  | nextChannel
  | endHandler
  | again
  /-- The running task or handler calls `assertInLoopThread()`. -/
  | assertInLoop
  | quit (currentTid : ℤ)
  | queueInLoop (currentTid : ℤ) (cb : τ)

/-- The looping thread is inside a task or an event handler. -/
def State.Executing (s : State τ κ) : Prop :=
  match s.phase with
  | .runningTask _ _ | .runningHandler _ _ => True
  | _ => False

/-- Calls of `quit` and `queueInLoop` come from other threads at any time, and from the looping
thread out of its tasks and handlers. -/
def State.MayCall (s : State τ κ) (currentTid : ℤ) : Prop :=
  currentTid = s.thread → s.phase ≠ .idle → s.Executing

def allowed (s : State τ κ) : Action τ κ → Prop
  | .call _ => s.phase = .idle
  | .clearStop => s.phase = .entered
  | .assertEntry => s.phase = .cleared
  | .test => s.phase = .top
  | .swap => s.phase = .body
  | .nextTask => ∃ task rest, s.phase = .tasks (task :: rest)
  | .endTask => ∃ task rest, s.phase = .runningTask task rest
  | .poll _ => s.phase = .tasks []
  | .nextChannel => ∃ channel rest, s.phase = .channels (channel :: rest)
  | .endHandler => ∃ channel rest, s.phase = .runningHandler channel rest
  | .again => s.phase = .channels []
  | .assertInLoop => s.Executing
  | .quit currentTid => s.MayCall currentTid
  | .queueInLoop currentTid _ => s.MayCall currentTid

instance (p : Phase τ κ) : Decidable (∃ task rest, p = .tasks (task :: rest)) :=
  match p with
  | .tasks (task :: rest) => isTrue ⟨task, rest, rfl⟩
  | .tasks [] | .idle | .entered | .cleared | .top | .body | .runningTask _ _ | .channels _
  | .runningHandler _ _ => isFalse (by simp)

instance (p : Phase τ κ) : Decidable (∃ task rest, p = .runningTask task rest) :=
  match p with
  | .runningTask task rest => isTrue ⟨task, rest, rfl⟩
  | .tasks _ | .idle | .entered | .cleared | .top | .body | .channels _ | .runningHandler _ _ =>
    isFalse (by simp)

instance (p : Phase τ κ) : Decidable (∃ channel rest, p = .channels (channel :: rest)) :=
  match p with
  | .channels (channel :: rest) => isTrue ⟨channel, rest, rfl⟩
  | .channels [] | .idle | .entered | .cleared | .top | .body | .tasks _ | .runningTask _ _
  | .runningHandler _ _ => isFalse (by simp)

instance (p : Phase τ κ) : Decidable (∃ channel rest, p = .runningHandler channel rest) :=
  match p with
  | .runningHandler channel rest => isTrue ⟨channel, rest, rfl⟩
  | .tasks _ | .idle | .entered | .cleared | .top | .body | .runningTask _ _ | .channels _ =>
    isFalse (by simp)

instance (s : State τ κ) : Decidable s.Executing := by
  unfold State.Executing
  split <;> infer_instance

instance (s : State τ κ) (currentTid : ℤ) [DecidableEq τ] [DecidableEq κ] :
    Decidable (s.MayCall currentTid) := by
  unfold State.MayCall
  infer_instance

instance [DecidableEq τ] [DecidableEq κ] (s : State τ κ) (a : Action τ κ) :
    Decidable (allowed s a) := by
  cases a <;> unfold allowed <;> infer_instance

def exec (s : State τ κ) : Action τ κ → Except Fault (State τ κ)
  | .call thread => do
    assertThat (s.loop.stoplooping_ = true)
    return { loop := s.loop.settid thread, thread := thread, phase := .entered }
  | .clearStop =>
    .ok { s with loop := { s.loop with stoplooping_ := false }, phase := .cleared }
  | .assertEntry => do
    s.loop.assertInLoopThread s.thread
    return { s with phase := .top }
  | .test =>
    if s.loop.stoplooping_ then .ok { s with loop := s.loop.settid (-1), phase := .idle }
    else .ok { s with phase := .body }
  | .swap => .ok { s with loop := s.loop.swapTasks.2, phase := .tasks s.loop.swapTasks.1 }
  | .nextTask =>
    match s.phase with
    | .tasks (task :: rest) => .ok { s with phase := .runningTask task rest }
    | _ => .ok s
  | .endTask =>
    match s.phase with
    | .runningTask _ rest => .ok { s with phase := .tasks rest }
    | _ => .ok s
  | .poll activeChannels => .ok { s with phase := .channels activeChannels }
  | .nextChannel =>
    match s.phase with
    | .channels (channel :: rest) => .ok { s with phase := .runningHandler channel rest }
    | _ => .ok s
  | .endHandler =>
    match s.phase with
    | .runningHandler _ rest => .ok { s with phase := .channels rest }
    | _ => .ok s
  | .again => .ok { s with phase := .top }
  | .assertInLoop => do
    s.loop.assertInLoopThread s.thread
    return s
  | .quit currentTid => .ok { s with loop := s.loop.quit currentTid }
  | .queueInLoop _ cb => .ok { s with loop := s.loop.queueInLoop cb }

/-- `loop()` among the calls of all threads. -/
def machine (τ κ : Type) : Machine (State τ κ) (Action τ κ) Fault where
  allowed := allowed
  exec := exec

end Looping
end Miniduo
