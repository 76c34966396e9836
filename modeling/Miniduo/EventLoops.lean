import Miniduo.EventLoop

/-!
# `EventLoops`

`EventLoops::loop` and `EventLoops::quit` of `EventLoop.cpp`: the main thread starts one thread for
each sub-loop, runs its own loop and joins the threads, while some thread calls `quit` on one loop
after the other. Every loop goes through the steps of `EventLoop::loop`.
-/

namespace Miniduo

/-- The loops while `EventLoops::loop` runs: `subLoops_` are those below `size_`, and the main
loop is number `size_`. -/
structure EventLoops (τ κ : Type) where
  size_ : ℕ
  loops : ℕ → Looping.State τ κ := fun _ => {}
  /-- The threads created so far. -/
  started : ℕ := 0
  /-- The threads joined so far. -/
  joined : ℕ := 0
  /-- `EventLoop::loop` has been called on the loop. -/
  called : ℕ → Bool := fun _ => false
  /-- The loops on which `quit` has been called so far, in their order. -/
  quits : ℕ := 0
  /-- The thread inside `EventLoops::quit`. -/
  quitter : Option ℤ := none

namespace EventLoops

variable {τ κ : Type}

inductive Action (τ κ : Type)
  /-- The thread of the next sub-loop is created. -/
  | start
  /-- A step of `EventLoop::loop` on one loop, or a task queued in it. -/
  | step (i : ℕ) (a : Looping.Action τ κ)
  | join
  /-- `EventLoops::quit` calls `quit` on the next loop. -/
  | quit (currentTid : ℤ)

/-- `EventLoops::quit` has called `quit` on every loop. -/
def QuitReturned (s : EventLoops τ κ) : Prop := s.size_ < s.quits

/-- The call of `EventLoop::loop` is made once, by the loop's thread when it runs, and by the main
thread behind the creation of all others. -/
def MayStep (s : EventLoops τ κ) (i : ℕ) : Looping.Action τ κ → Prop
  | .call _ => s.called i = false ∧ if i < s.size_ then i < s.started else s.started = s.size_
  | .quit _ => False
  | .queueInLoop _ _ => True
  | _ => s.quitter ≠ some (s.loops i).thread

def allowed (s : EventLoops τ κ) : Action τ κ → Prop
  | .start => s.started < s.size_
  | .step i a => i ≤ s.size_ ∧ s.MayStep i a ∧ Looping.allowed (s.loops i) a
  | .join =>
    s.joined < s.size_ ∧
      ∀ i, i = s.size_ ∨ i = s.joined → s.called i ∧ (s.loops i).phase = .idle
  | .quit currentTid =>
    s.quits ≤ s.size_ ∧ (s.quits = 0 ∨ s.quitter = some currentTid) ∧
      ∀ i ≤ s.size_, (s.loops i).MayCall currentTid

section
variable [DecidableEq τ] [DecidableEq κ]

instance (s : EventLoops τ κ) (i : ℕ) : ∀ a : Looping.Action τ κ, Decidable (s.MayStep i a)
  | .call _ => inferInstanceAs (Decidable
      (s.called i = false ∧ if i < s.size_ then i < s.started else s.started = s.size_))
  | .quit _ => isFalse id
  | .queueInLoop .. => isTrue trivial
  | .clearStop | .assertEntry | .test | .swap | .nextTask | .endTask | .poll _ | .nextChannel
  | .endHandler | .again | .assertInLoop => inferInstanceAs (Decidable (_ ≠ _))

instance (s : EventLoops τ κ) (a : Action τ κ) : Decidable (allowed s a) := by
  cases a with
  | join =>
    exact decidable_of_iff
      (s.joined < s.size_ ∧ (s.called s.size_ ∧ (s.loops s.size_).phase = .idle) ∧
        s.called s.joined ∧ (s.loops s.joined).phase = .idle) (by simp [allowed])
  | _ => unfold allowed; infer_instance

end

def setLoop (s : EventLoops τ κ) (i : ℕ) (loop : Looping.State τ κ) : EventLoops τ κ :=
  { s with loops := Function.update s.loops i loop }

def exec (s : EventLoops τ κ) : Action τ κ → Except Fault (EventLoops τ κ)
  | .start => .ok { s with started := s.started + 1 }
  | .step i a => do
    let loop ← Looping.exec (s.loops i) a
    match a with
    | .call _ => return { s.setLoop i loop with called := Function.update s.called i true }
    | _ => return s.setLoop i loop
  | .join => .ok { s with joined := s.joined + 1 }
  | .quit currentTid => do
    let loop ← Looping.exec (s.loops s.quits) (.quit currentTid)
    return { s.setLoop s.quits loop with
      quits := s.quits + 1
      quitter := if s.quits < s.size_ then some currentTid else none }

/-- One call of `EventLoops::loop` and one of `EventLoops::quit`, made behind its entry. -/
def machine (τ κ : Type) : Machine (EventLoops τ κ) (Action τ κ) Fault where
  allowed := allowed
  exec := exec

instance [DecidableEq τ] [DecidableEq κ] (s : EventLoops τ κ) (a : Action τ κ) :
    Decidable ((machine τ κ).allowed s a) :=
  inferInstanceAs (Decidable (allowed s a))

end EventLoops
end Miniduo
