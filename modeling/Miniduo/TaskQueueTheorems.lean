import Miniduo.TaskQueue

/-!
# No task and no wake-up is lost

The tasks pushed are at every moment those executed, those left of the batch and those in the
queue. The queue is emptied between the drain of the eventfd and the next `poll`, so a task that
waits during `poll` was pushed after the last drain.
-/

namespace Miniduo
namespace TaskQueue

variable {τ κ : Type}

/-- What is left of the batch that `doPendingTasks` runs. -/
def batch (s : TaskQueue τ κ) : List (LoopTask τ) :=
  match s.looping.phase with
  | .tasks rest | .runningTask _ rest => rest
  | _ => []

/-- The loop thread stands between the `swap` and the return of `poll`. -/
def BehindSwap (s : TaskQueue τ κ) : Prop :=
  match s.looping.phase with
  | .tasks _ | .runningTask _ _ => True
  | _ => False

/-- A waiting task has its wake-up, or its thread has still to write it. -/
def WakeupDue (s : TaskQueue τ κ) : Prop :=
  s.looping.loop.pendingTasks_ ≠ [] → 0 < s.looping.loop.wakeups ∨ s.writers ≠ []

structure QueueInv (s : TaskQueue τ κ) : Prop where
  order : s.pushed = s.executed ++ s.batch ++ s.looping.loop.pendingTasks_
  constructor_pushed : .addWakeupChannel ∈ s.pushed
  registered : .addWakeupChannel ∈ s.executed → s.registered = true
  /-- The first batch is the one that registers the eventfd. -/
  first : s.BehindSwap → .addWakeupChannel ∈ s.executed ++ s.batch
  wakeup : s.BehindSwap → s.WakeupDue

/-- Nothing is queued, taken or started, and the eventfd is not read behind the `swap`. -/
structure Quiet (s s' : TaskQueue τ κ) : Prop where
  pushed : s'.pushed = s.pushed
  executed : s'.executed = s.executed
  registered : s'.registered = s.registered
  writers : s'.writers = s.writers
  batch : s'.batch = s.batch
  pendingTasks_ : s'.looping.loop.pendingTasks_ = s.looping.loop.pendingTasks_
  behind : s'.BehindSwap → s.BehindSwap ∧ s.looping.loop.wakeups ≤ s'.looping.loop.wakeups

lemma QueueInv.quiet {s s' : TaskQueue τ κ} (h : s.QueueInv) (hquiet : s.Quiet s') :
    s'.QueueInv where
  order := by
    rw [hquiet.pushed, hquiet.executed, hquiet.batch, hquiet.pendingTasks_]
    exact h.order
  constructor_pushed := by
    rw [hquiet.pushed]
    exact h.constructor_pushed
  registered := by
    rw [hquiet.executed, hquiet.registered]
    exact h.registered
  first hbehind := by
    rw [hquiet.executed, hquiet.batch]
    exact h.first (hquiet.behind hbehind).1
  wakeup hbehind hne := by
    -- a quiet step takes nothing from the counter
    obtain ⟨hbehind, hle⟩ := hquiet.behind hbehind
    rw [hquiet.pendingTasks_] at hne
    rw [hquiet.writers]
    rcases h.wakeup hbehind hne with hpos | hwriters
    · left
      omega
    · exact Or.inr hwriters

/-! ## What a step does -/

/-- The `swap` turns the queue into the batch. -/
lemma QueueInv.swap {s s' : TaskQueue τ κ} (h : s.QueueInv) (hphase : s.looping.phase = .body)
    (hs' : s' = { s with looping := { s.looping with
      loop := s.looping.loop.swapTasks.2, phase := .tasks s.looping.loop.swapTasks.1 } }) :
    s'.QueueInv := by
  have hbatch : s.batch = [] := by rw [batch, hphase]
  have horder : s.pushed = s.executed ++ s.looping.loop.pendingTasks_ := by
    rw [h.order, hbatch, List.append_nil]
  have hpushed := h.constructor_pushed
  rw [horder] at hpushed
  subst hs'
  constructor
  · show s.pushed = s.executed ++ s.looping.loop.pendingTasks_ ++ []
    rw [List.append_nil, horder]
  · exact h.constructor_pushed
  · exact h.registered
  · exact fun _ => hpushed
  · exact fun _ hne => absurd rfl hne

/-- The next task moves from the batch to those executed. -/
lemma QueueInv.nextTask {s s' : TaskQueue τ κ} {task : LoopTask τ} {rest : List (LoopTask τ)}
    (h : s.QueueInv) (hphase : s.looping.phase = .tasks (task :: rest))
    (hpushed : s'.pushed = s.pushed) (hexecuted : s'.executed = s.executed ++ [task])
    (hregistered : s'.registered = true ↔ s.registered = true ∨ task = .addWakeupChannel)
    (hwriters : s'.writers = s.writers) (hloop : s'.looping.loop = s.looping.loop)
    (hphase' : s'.looping.phase = .runningTask task rest) : s'.QueueInv := by
  have hbatch : s.batch = task :: rest := by rw [batch, hphase]
  have hbatch' : s'.batch = rest := by rw [batch, hphase']
  have hbehind : s.BehindSwap := by
    rw [BehindSwap, hphase]
    trivial
  have hsplit : s'.executed ++ s'.batch = s.executed ++ s.batch := by
    rw [hexecuted, hbatch, hbatch', List.append_assoc, List.singleton_append]
  constructor
  · rw [hsplit, hpushed, hloop]
    exact h.order
  · rw [hpushed]
    exact h.constructor_pushed
  · intro hmem
    rw [hexecuted, List.mem_append, List.mem_singleton] at hmem
    rw [hregistered]
    rcases hmem with hmem | hmem
    · exact Or.inl (h.registered hmem)
    · exact Or.inr hmem.symm
  · intro _
    rw [hsplit]
    exact h.first hbehind
  · intro _ hne
    rw [hloop] at hne ⊢
    rw [hwriters]
    exact h.wakeup hbehind hne

/-- The pushing thread has still to write. -/
lemma QueueInv.push {s : TaskQueue τ κ} (h : s.QueueInv) (currentTid : ℤ) (cb : τ) :
    QueueInv { s.setLoop (s.looping.loop.pushTask (.task cb)) with
      writers := currentTid :: s.writers
      pushed := s.pushed ++ [.task cb] } where
  order := by
    show s.pushed ++ [.task cb] = s.executed ++ s.batch ++ (s.looping.loop.pendingTasks_ ++ [.task cb])
    rw [h.order, List.append_assoc]
  constructor_pushed := List.mem_append_left _ h.constructor_pushed
  registered := h.registered
  first := h.first
  wakeup _ _ := Or.inr (List.cons_ne_nil _ _)

/-- Behind a write the counter is not zero. -/
lemma QueueInv.write {s : TaskQueue τ κ} (h : s.QueueInv) (currentTid : ℤ) :
    QueueInv { s.setLoop s.looping.loop.wakeup with writers := s.writers.erase currentTid } where
  order := h.order
  constructor_pushed := h.constructor_pushed
  registered := h.registered
  first := h.first
  wakeup _ _ := Or.inl (Nat.succ_pos _)

/-- Every other step of `loop()` is quiet. -/
lemma quiet_step {s : TaskQueue τ κ} {a : Looping.Action (LoopTask τ) (LoopChannel κ)}
    {looping : Looping.State (LoopTask τ) (LoopChannel κ)} (hmay : s.MayStep a)
    (hallowed : Looping.allowed s.looping a) (hexec : Looping.exec s.looping a = .ok looping)
    (hswap : a ≠ .swap) (hnext : a ≠ .nextTask) :
    s.Quiet (begin { s with looping := looping } a) := by
  cases a with
  | swap => exact absurd rfl hswap
  | nextTask => exact absurd rfl hnext
  | queueInLoop currentTid cb => exact absurd hmay id
  | call thread =>
    have hphase : s.looping.phase = .idle := hallowed
    obtain ⟨_, _, hexec⟩ := except_bind_eq_ok.mp hexec
    obtain rfl := Except.ok.inj hexec
    exact ⟨rfl, rfl, rfl, rfl, by simp [batch, begin, hphase], rfl, fun hbehind => absurd hbehind id⟩
  | clearStop =>
    have hphase : s.looping.phase = .entered := hallowed
    obtain rfl := Except.ok.inj hexec
    exact ⟨rfl, rfl, rfl, rfl, by simp [batch, begin, hphase], rfl, fun hbehind => absurd hbehind id⟩
  | assertEntry =>
    have hphase : s.looping.phase = .cleared := hallowed
    obtain ⟨_, _, hexec⟩ := except_bind_eq_ok.mp hexec
    obtain rfl := Except.ok.inj hexec
    exact ⟨rfl, rfl, rfl, rfl, by simp [batch, begin, hphase], rfl, fun hbehind => absurd hbehind id⟩
  | test =>
    have hphase : s.looping.phase = .top := hallowed
    simp only [Looping.exec] at hexec
    split at hexec
    · obtain rfl := Except.ok.inj hexec
      exact ⟨rfl, rfl, rfl, rfl, by simp [batch, begin, hphase], rfl,
        fun hbehind => absurd hbehind id⟩
    · obtain rfl := Except.ok.inj hexec
      exact ⟨rfl, rfl, rfl, rfl, by simp [batch, begin, hphase], rfl,
        fun hbehind => absurd hbehind id⟩
  | endTask =>
    obtain ⟨task, rest, hphase⟩ := hallowed
    simp only [Looping.exec, hphase, Except.ok.injEq] at hexec
    subst hexec
    exact ⟨rfl, rfl, rfl, rfl, by simp [batch, begin, hphase], rfl,
      fun _ => ⟨by simp [BehindSwap, hphase], le_rfl⟩⟩
  | poll activeChannels =>
    have hphase : s.looping.phase = .tasks [] := hallowed
    obtain rfl := Except.ok.inj hexec
    exact ⟨rfl, rfl, rfl, rfl, by simp [batch, begin, hphase], rfl, fun hbehind => absurd hbehind id⟩
  | nextChannel =>
    -- the handler of the eventfd drains it, outside the part behind the `swap`
    obtain ⟨channel, rest, hphase⟩ := hallowed
    simp only [Looping.exec, hphase, Except.ok.injEq] at hexec
    subst hexec
    cases channel with
    | wakeupChannel =>
      exact ⟨rfl, rfl, rfl, rfl, by simp [batch, begin, setLoop, hphase], rfl,
        fun hbehind => absurd hbehind id⟩
    | other channel =>
      exact ⟨rfl, rfl, rfl, rfl, by simp [batch, begin, hphase], rfl,
        fun hbehind => absurd hbehind id⟩
  | endHandler =>
    obtain ⟨channel, rest, hphase⟩ := hallowed
    simp only [Looping.exec, hphase, Except.ok.injEq] at hexec
    subst hexec
    exact ⟨rfl, rfl, rfl, rfl, by simp [batch, begin, hphase], rfl, fun hbehind => absurd hbehind id⟩
  | again =>
    have hphase : s.looping.phase = .channels [] := hallowed
    obtain rfl := Except.ok.inj hexec
    exact ⟨rfl, rfl, rfl, rfl, by simp [batch, begin, hphase], rfl, fun hbehind => absurd hbehind id⟩
  | assertInLoop =>
    obtain ⟨_, _, hexec⟩ := except_bind_eq_ok.mp hexec
    obtain rfl := Except.ok.inj hexec
    exact ⟨rfl, rfl, rfl, rfl, rfl, rfl, fun hbehind => ⟨hbehind, le_rfl⟩⟩
  | quit currentTid =>
    obtain rfl := Except.ok.inj hexec
    refine ⟨rfl, rfl, rfl, rfl, rfl, ?_, fun hbehind => ⟨hbehind, ?_⟩⟩
    · show (s.looping.loop.quit currentTid).pendingTasks_ = _
      unfold EventLoop.quit
      split <;> rfl
    · show _ ≤ (s.looping.loop.quit currentTid).wakeups
      unfold EventLoop.quit
      split
      · exact Nat.le_succ _
      · exact le_rfl

lemma queueInv_step {s s' : TaskQueue τ κ} {a : Action τ κ} (h : s.QueueInv)
    (hallowed : allowed s a) (hexec : exec s a = .ok s') : s'.QueueInv := by
  cases a with
  | push currentTid cb =>
    obtain rfl := Except.ok.inj hexec
    exact h.push currentTid cb
  | write currentTid =>
    obtain rfl := Except.ok.inj hexec
    exact h.write currentTid
  | step a =>
    obtain ⟨hmay, hallowed⟩ := hallowed
    obtain ⟨looping, hlooping, hexec⟩ := except_bind_eq_ok.mp hexec
    obtain rfl := Except.ok.inj hexec
    -- two steps of `loop()` move tasks, the others are quiet
    by_cases hswap : a = .swap
    · subst hswap
      obtain rfl := Except.ok.inj hlooping
      exact h.swap hallowed rfl
    · by_cases hnext : a = .nextTask
      · subst hnext
        obtain ⟨task, rest, hphase⟩ := hallowed
        simp only [Looping.exec, hphase, Except.ok.injEq] at hlooping
        subst hlooping
        cases task <;> exact h.nextTask hphase rfl rfl (by simp [begin]) rfl rfl rfl
      · exact h.quiet (quiet_step hmay hallowed hlooping hswap hnext)

lemma queueInv_start : (start τ κ).QueueInv where
  order := rfl
  constructor_pushed := List.mem_cons_self
  registered hmem := absurd hmem List.not_mem_nil
  first hbehind := absurd hbehind id
  wakeup hbehind := absurd hbehind id

/-- **The task queue.** In every reachable state the tasks executed, the rest of the batch and the
queue are, one after the other, the tasks pushed. Where the loop thread enters `poll`, the eventfd
is watched, and when a task waits then the counter is above zero or a thread is about to write. -/
theorem taskQueue_of_run {as : List (Action τ κ)} {s : TaskQueue τ κ}
    (hrun : (machine τ κ).Run (start τ κ) as s) :
    s.pushed = s.executed ++ s.batch ++ s.looping.loop.pendingTasks_ ∧
      (s.looping.phase = .tasks [] → s.registered = true ∧ s.WakeupDue) := by
  have hinv : s.QueueInv := hrun.preserves queueInv_start
    fun _ _ _ h hallowed hexec => queueInv_step h hallowed hexec
  refine ⟨hinv.order, fun hphase => ?_⟩
  have hbehind : s.BehindSwap := by
    rw [BehindSwap, hphase]
    trivial
  have hbatch : s.batch = [] := by rw [batch, hphase]
  have hfirst := hinv.first hbehind
  rw [hbatch, List.append_nil] at hfirst
  exact ⟨hinv.registered hfirst, hinv.wakeup hbehind⟩

/-- Thread 1 runs the loop; thread 2 pushes a task during the first batch and writes later. -/
def pushDuringBatch : List (Action ℕ ℕ) :=
  [.step (.call 1), .step .clearStop, .step .assertEntry, .step .test, .step .swap,
    .step .nextTask, .push 2 7, .step .endTask, .step .nextTask, .step .endTask,
    .step .nextTask, .step .endTask, .step .nextTask, .step .endTask]

theorem taskQueue_pushDuringBatch :
    ∃ s, (machine ℕ ℕ).Run (start ℕ ℕ) pushDuringBatch s ∧
      s.pushed = s.executed ++ s.batch ++ s.looping.loop.pendingTasks_ ∧
      s.registered = true ∧ s.WakeupDue := by
  obtain ⟨s, hrun, hphase⟩ := Machine.Run.of_replay_map (machine ℕ ℕ) (start ℕ ℕ) pushDuringBatch
    (fun s => decide (s.looping.phase = .tasks [])) (by decide +kernel)
  have htask := taskQueue_of_run hrun
  exact ⟨s, hrun, htask.1, htask.2 (of_decide_eq_true hphase)⟩

end TaskQueue
end Miniduo
