import Miniduo.EventLoop

/-!
# The task queue and its wake-ups

`queueInLoop` pushes a task under the lock and writes to the eventfd afterwards, so other threads
run between the two. This is `EventLoop` from the end of its constructor on, with the two as
separate steps, the eventfd's channel among the active ones and the effect of the tasks that
register it.
-/

namespace Miniduo

/-- The tasks that the constructor queues, and all others. -/
inductive LoopTask (τ : Type)
  | addWakeupChannel | updateWakeupChannel | addTimerfdChannel | updateTimerfdChannel
  | task (cb : τ)
deriving Repr, DecidableEq

/-- `wakeupChannel_`, and all others. -/
inductive LoopChannel (κ : Type)
  | wakeupChannel
  | other (channel : κ)
deriving Repr, DecidableEq

namespace EventLoop

/-- The part of `queueInLoop` under the lock. -/
def pushTask {τ : Type} (loop : EventLoop τ) (cb : τ) : EventLoop τ :=
  { loop with pendingTasks_ := loop.pendingTasks_ ++ [cb] }

/-- The tasks queued when the constructor returns. -/
def constructorTasks {τ : Type} : List (LoopTask τ) :=
  [.addWakeupChannel, .updateWakeupChannel, .addTimerfdChannel, .updateTimerfdChannel]

/-- The constructor: no loop thread yet, so its calls of `runInLoop` queue. -/
def constructed (τ : Type) : EventLoop (LoopTask τ) :=
  constructorTasks.foldl queueInLoop {}

end EventLoop

/-- A loop, the thread that runs it and the threads that queue tasks in it. -/
structure TaskQueue (τ κ : Type) where
  looping : Looping.State (LoopTask τ) (LoopChannel κ)
  /-- The poller watches `wakeupChannel_`. -/
  registered : Bool := false
  /-- The threads between their `push_back` and their `write`. -/
  writers : List ℤ := []
  /-- The tasks pushed so far, in their order. -/
  pushed : List (LoopTask τ)
  /-- The tasks started so far, in their order. -/
  executed : List (LoopTask τ) := []

namespace TaskQueue

variable {τ κ : Type}

def start (τ κ : Type) : TaskQueue τ κ where
  looping := { loop := EventLoop.constructed τ }
  pushed := EventLoop.constructorTasks

inductive Action (τ κ : Type)
  /-- A step of `loop()`, or a call of `quit()`. -/
  | step (a : Looping.Action (LoopTask τ) (LoopChannel κ))
  /-- `queueInLoop` pushes the task. -/
  | push (currentTid : ℤ) (cb : τ)
  /-- `queueInLoop` writes to the eventfd. -/
  | write (currentTid : ℤ)

/-- A thread inside `queueInLoop` does nothing else. The poller reports the eventfd when it watches
it and the counter is not zero. -/
def MayStep (s : TaskQueue τ κ) : Looping.Action (LoopTask τ) (LoopChannel κ) → Prop
  | .call thread => thread ∉ s.writers
  | .quit currentTid => currentTid ∉ s.writers
  | .queueInLoop _ _ => False
  | .poll activeChannels =>
    s.looping.thread ∉ s.writers ∧
      (.wakeupChannel ∈ activeChannels → s.registered = true ∧ 0 < s.looping.loop.wakeups)
  | _ => s.looping.thread ∉ s.writers

def allowed (s : TaskQueue τ κ) : Action τ κ → Prop
  | .step a => s.MayStep a ∧ Looping.allowed s.looping a
  | .push currentTid _ => currentTid ∉ s.writers ∧ s.looping.MayCall currentTid
  | .write currentTid => currentTid ∈ s.writers

def setLoop (s : TaskQueue τ κ) (loop : EventLoop (LoopTask τ)) : TaskQueue τ κ :=
  { s with looping := { s.looping with loop := loop } }

/-- What a task or handler does at its start: `addChannel` registers the eventfd, and
`EventLoop::handleRead` reads it. -/
def begin (s : TaskQueue τ κ) : Looping.Action (LoopTask τ) (LoopChannel κ) → TaskQueue τ κ
  | .nextTask =>
    match s.looping.phase with
    | .runningTask .addWakeupChannel _ =>
      { s with registered := true, executed := s.executed ++ [.addWakeupChannel] }
    | .runningTask task _ => { s with executed := s.executed ++ [task] }
    | _ => s
  | .nextChannel =>
    match s.looping.phase with
    | .runningHandler .wakeupChannel _ => s.setLoop s.looping.loop.handleRead
    | _ => s
  | _ => s

def exec (s : TaskQueue τ κ) : Action τ κ → Except Fault (TaskQueue τ κ)
  | .step a => do
    let looping ← Looping.exec s.looping a
    return begin { s with looping := looping } a
  | .push currentTid cb =>
    .ok { s.setLoop (s.looping.loop.pushTask (.task cb)) with
      writers := currentTid :: s.writers
      pushed := s.pushed ++ [.task cb] }
  | .write currentTid =>
    .ok { s.setLoop s.looping.loop.wakeup with writers := s.writers.erase currentTid }

/-- The loop among the threads that queue tasks. -/
def machine (τ κ : Type) : Machine (TaskQueue τ κ) (Action τ κ) Fault where
  allowed := allowed
  exec := exec

section
variable [DecidableEq τ] [DecidableEq κ]

instance (s : TaskQueue τ κ) (a : Looping.Action (LoopTask τ) (LoopChannel κ)) :
    Decidable (s.MayStep a) := by
  cases a <;> unfold MayStep <;> infer_instance

instance (s : TaskQueue τ κ) (a : Action τ κ) : Decidable ((machine τ κ).allowed s a) := by
  cases a <;> unfold machine <;> simp only [allowed] <;> infer_instance

end

end TaskQueue
end Miniduo
