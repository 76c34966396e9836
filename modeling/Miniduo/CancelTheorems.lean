import Miniduo.TimerLoop
import Miniduo.TimerTheorems

/-!
# When `cancel` is effective

A timer that has been added and cancelled is in nobody's way any more: it is not in the queue, and
when `handleRead` has taken it out, it does not repeat. A timer that is cancelled before its
`addTimer` has been executed is added all the same.
-/

namespace Miniduo

/-! ## The tasks of a loop -/

namespace Looping

variable {τ κ : Type}

/-- The tasks to be executed: the rest of the batch, then the queue. -/
def State.waiting (s : State τ κ) : List τ :=
  match s.phase with
  | .tasks rest | .runningTask _ rest => rest ++ s.loop.pendingTasks_
  | _ => s.loop.pendingTasks_

/-- `doPendingTasks` takes the tasks from the front, and `queueInLoop` adds them behind. -/
lemma exec_waiting {s s' : State τ κ} {a : Action τ κ} (hallowed : allowed s a)
    (hexec : exec s a = .ok s') :
    match a with
    | .nextTask => ∃ task rest, s'.phase = .runningTask task rest ∧ s.waiting = task :: s'.waiting
    | .queueInLoop _ cb => s'.waiting = s.waiting ++ [cb]
    | _ => s'.waiting = s.waiting := by
  cases a with
  | call thread =>
    have hphase : s.phase = .idle := hallowed
    obtain ⟨_, _, hexec⟩ := except_bind_eq_ok.mp hexec
    obtain rfl := Except.ok.inj hexec
    simp [State.waiting, hphase, EventLoop.settid]
  | clearStop =>
    have hphase : s.phase = .entered := hallowed
    obtain rfl := Except.ok.inj hexec
    simp [State.waiting, hphase]
  | assertEntry =>
    have hphase : s.phase = .cleared := hallowed
    obtain ⟨_, _, hexec⟩ := except_bind_eq_ok.mp hexec
    obtain rfl := Except.ok.inj hexec
    simp [State.waiting, hphase]
  | test =>
    have hphase : s.phase = .top := hallowed
    simp only [exec] at hexec
    split at hexec
    · obtain rfl := Except.ok.inj hexec
      simp [State.waiting, hphase, EventLoop.settid]
    · obtain rfl := Except.ok.inj hexec
      simp [State.waiting, hphase]
  | swap =>
    have hphase : s.phase = .body := hallowed
    obtain rfl := Except.ok.inj hexec
    -- the batch is the whole queue, and the queue is empty behind it
    simp [State.waiting, hphase, EventLoop.swapTasks]
  | nextTask =>
    obtain ⟨task, rest, hphase⟩ := hallowed
    simp only [exec, hphase, Except.ok.injEq] at hexec
    subst hexec
    exact ⟨task, rest, rfl, by simp [State.waiting, hphase]⟩
  | endTask =>
    obtain ⟨task, rest, hphase⟩ := hallowed
    simp only [exec, hphase, Except.ok.injEq] at hexec
    subst hexec
    simp [State.waiting, hphase]
  | poll activeChannels =>
    have hphase : s.phase = .tasks [] := hallowed
    obtain rfl := Except.ok.inj hexec
    simp [State.waiting, hphase]
  | nextChannel =>
    obtain ⟨channel, rest, hphase⟩ := hallowed
    simp only [exec, hphase, Except.ok.injEq] at hexec
    subst hexec
    simp [State.waiting, hphase]
  | endHandler =>
    obtain ⟨channel, rest, hphase⟩ := hallowed
    simp only [exec, hphase, Except.ok.injEq] at hexec
    subst hexec
    simp [State.waiting, hphase]
  | again =>
    have hphase : s.phase = .channels [] := hallowed
    obtain rfl := Except.ok.inj hexec
    simp [State.waiting, hphase]
  | assertInLoop =>
    obtain ⟨_, _, hexec⟩ := except_bind_eq_ok.mp hexec
    obtain rfl := Except.ok.inj hexec
    rfl
  | quit currentTid =>
    obtain rfl := Except.ok.inj hexec
    have hpending : (s.loop.quit currentTid).pendingTasks_ = s.loop.pendingTasks_ := by
      unfold EventLoop.quit
      split <;> rfl
    simp only [State.waiting, hpending]
  | queueInLoop currentTid cb =>
    obtain rfl := Except.ok.inj hexec
    simp only [State.waiting, EventLoop.queueInLoop, EventLoop.wakeup]
    split <;> simp

end Looping

/-! ## A cancelled timer -/

namespace TimerQueue

variable {r : Rounding} {q q' : TimerQueue} {timer : ℕ}

/-- Nothing makes the queue call the timer's callback again, but for a batch that has taken it out
already. -/
structure Gone (q : TimerQueue) (timer : ℕ) : Prop where
  added : q.added timer = true
  out : ∀ e ∈ q.timers_, e.second ≠ timer
  once : ∀ e ∈ q.stage.expired, e.second = timer → (q.heap timer).repeats = false

/-- How often the `handleRead` in progress is still to call the timer's callback. -/
def due (q : TimerQueue) (timer : ℕ) : ℕ := (q.stage.rest.map TimerEntry.second).count timer

lemma due_le_one (h : q.TimerInv) (timer : ℕ) : q.due timer ≤ 1 := by
  have hrest : q.stage.rest.Pairwise (·.second ≠ ·.second) :=
    h.expired_distinct.sublist h.rest_suffix.sublist
  have hnodup : (q.stage.rest.map TimerEntry.second).Nodup := List.pairwise_map.mpr hrest
  exact List.nodup_iff_count_le_one.mp hnodup timer

/-- Behind `cancelTimer` an added timer is gone. -/
lemma gone_cancelTimer (h : q.TimerInv) (hadded : q.added timer = true) :
    (q.cancelTimer timer).Gone timer := by
  rw [cancelTimer]
  split
  · rename_i hfound
    constructor
    · exact hadded
    · intro e he hsecond
      obtain ⟨hne, he⟩ := OrderedSet.mem_erase.mp he
      exact hne (eq_of_second h.key he hfound hsecond)
    · intro e he hsecond
      exact absurd hsecond.symm (h.expired_out e he _ hfound)
  · rename_i hnot
    constructor
    · exact hadded
    · -- an entry of the timer would have been found
      rintro e he rfl
      apply hnot
      rw [← h.key e he]
      exact he
    · intro e _ _
      simp [setTimer, Timer.setUnrepeat, Timer.repeats]

lemma Gone.cancelTimer (h : q.Gone timer) (other : ℕ) : (q.cancelTimer other).Gone timer := by
  rw [TimerQueue.cancelTimer]
  split
  · exact ⟨h.added, fun e he => h.out e (OrderedSet.mem_erase.mp he).2, h.once⟩
  · refine ⟨h.added, h.out, fun e he hsecond => ?_⟩
    by_cases hne : timer = other
    · simp [setTimer, hne, Timer.setUnrepeat, Timer.repeats]
    · simp only [setTimer, Function.update_of_ne hne]
      exact h.once e he hsecond

/-- A timer that is gone stays so. -/
lemma gone_step {a : Action} (hinv : q.TimerInv) (hallowed : allowed q a)
    (hexec : exec r q a = .ok q') (h : q.Gone timer) : q'.Gone timer := by
  cases a with
  | make timer' value =>
    obtain rfl := Except.ok.inj hexec
    have hne : timer ≠ timer' := by
      rintro rfl
      have hmade := hinv.made timer h.added
      rw [show q.made timer = false from hallowed] at hmade
      cases hmade
    refine ⟨h.added, h.out, fun e he hsecond => ?_⟩
    simp only [setTimer, Function.update_of_ne hne]
    exact h.once e he hsecond
  | addTimer timer' =>
    obtain ⟨q₁, hadd, hexec⟩ := except_bind_eq_ok.mp hexec
    obtain rfl := Except.ok.inj hexec
    obtain ⟨_, timerfd, rfl, -, -⟩ := addTimer_ok hadd
    have hne : timer' ≠ timer := by
      rintro rfl
      have hnew := hallowed.2
      rw [h.added] at hnew
      cases hnew
    refine ⟨?_, fun e he => ?_, h.once⟩
    · simp only [Function.update_of_ne hne.symm]
      exact h.added
    · rcases OrderedSet.mem_insert.mp he with rfl | he
      · exact hne
      · exact h.out e he
  | cancelTimer timer' =>
    obtain rfl := Except.ok.inj hexec
    exact h.cancelTimer timer'
  | handleRead =>
    obtain rfl := handleRead_ok hexec
    refine ⟨h.added, fun e he => h.out e (OrderedSet.mem_onwards.mp he).1, fun e he hsecond => ?_⟩
    exact absurd hsecond (h.out e (OrderedSet.mem_below.mp he).1)
  | run =>
    simp only [exec] at hexec
    split at hexec
    · rename_i hstage
      obtain rfl := Except.ok.inj hexec
      have honce := h.once
      rw [hstage] at honce
      exact ⟨h.added, h.out, honce⟩
    · obtain rfl := Except.ok.inj hexec
      exact h
  | reset =>
    simp only [exec] at hexec
    split at hexec
    · rename_i now expired rest hstage
      obtain ⟨q₁, hreset, hexec⟩ := except_bind_eq_ok.mp hexec
      obtain rfl := Except.ok.inj hexec
      obtain ⟨q₂, hloop, timerfd, rfl, -⟩ := reset_ok hreset
      have hnow := hinv.now_pos now expired rest hstage
      obtain ⟨-, hentries⟩ := resetLoop_ok hnow (hinv.restartable_of_firing hstage) hloop
      obtain ⟨timers_, heap, rfl⟩ := resetLoop_frame hloop
      refine ⟨h.added, fun e he hsecond => ?_, fun e he => absurd he List.not_mem_nil⟩
      rcases hentries e he with he | ⟨-, e', he', hsecond', hrepeats⟩
      · exact h.out e he hsecond
      · -- only repeating timers come back
        have honce := h.once
        rw [hstage] at honce
        rw [← hsecond', hsecond, honce e' he' (hsecond'.symm.trans hsecond)] at hrepeats
        cases hrepeats
    · obtain rfl := Except.ok.inj hexec
      exact h
  | tick microseconds =>
    obtain rfl := Except.ok.inj hexec
    exact ⟨h.added, h.out, h.once⟩

/-- Only the start of a callback changes how often a timer that is gone is due. -/
lemma due_step {a : Action} (hexec : exec r q a = .ok q') (hrun : a ≠ .run) (h : q.Gone timer) :
    q'.due timer ≤ q.due timer := by
  cases a with
  | make timer' value =>
    obtain rfl := Except.ok.inj hexec
    exact le_rfl
  | addTimer timer' =>
    obtain ⟨q₁, hadd, hexec⟩ := except_bind_eq_ok.mp hexec
    obtain rfl := Except.ok.inj hexec
    obtain ⟨_, timerfd, rfl, -, -⟩ := addTimer_ok hadd
    exact le_rfl
  | cancelTimer timer' =>
    obtain rfl := Except.ok.inj hexec
    rw [cancelTimer]
    split <;> exact le_rfl
  | handleRead =>
    obtain rfl := handleRead_ok hexec
    -- the batch is taken out of the queue, where the timer is not
    apply le_of_eq_of_le _ (Nat.zero_le _)
    show List.count timer ((q.timers_.below _).map TimerEntry.second) = 0
    rw [List.count_eq_zero, List.mem_map]
    rintro ⟨e, he, hsecond⟩
    exact h.out e (OrderedSet.mem_below.mp he).1 hsecond
  | run => exact absurd rfl hrun
  | reset =>
    simp only [exec] at hexec
    split at hexec
    · obtain ⟨q₁, _, hexec⟩ := except_bind_eq_ok.mp hexec
      obtain rfl := Except.ok.inj hexec
      exact Nat.zero_le _
    · obtain rfl := Except.ok.inj hexec
      exact le_rfl
  | tick microseconds =>
    obtain rfl := Except.ok.inj hexec
    exact le_rfl

end TimerQueue

/-! ## Cancelling in a loop -/

namespace TimerLoop

open TimerQueue

variable {r : Rounding}

/-- Behind each cancellation the callback is called no more, and once when the batch in progress
had taken the timer out before. -/
def CancelsHold (log : List TimerEvent) : Prop :=
  ∀ pre timer taken post, log = pre ++ .cancelled timer taken :: post →
    post.count (.started timer) ≤ if taken then 1 else 0

/-- A call of `cancel` that is executed at once finds that `addTimer` has been executed. -/
def InlineAdded (s : TimerLoop) : Action → Prop
  | .cancel currentTid timer =>
    s.looping.loop.isInLoopThread currentTid = true → s.queue.added timer = true
  | _ => True

instance (s : TimerLoop) : ∀ a, Decidable (s.InlineAdded a)
  | .cancel .. => inferInstanceAs (Decidable (_ → _))
  | .step _ | .runAt .. | .run | .reset | .tick _ => isTrue trivial

/-- The waiting tasks: an `addTimer` waits once, for a timer that has been made and not added; a
timer that has been made has been added or its `addTimer` waits, in front of any `cancelTimer`. -/
structure TasksInv (queue : TimerQueue) (tasks : List TimerTask) : Prop where
  add : ∀ timer, .addTimer timer ∈ tasks →
    queue.made timer = true ∧ queue.added timer = false ∧ tasks.count (.addTimer timer) = 1
  made : ∀ timer, queue.made timer = true → queue.added timer = true ∨ .addTimer timer ∈ tasks
  cancel : ∀ pre timer post, tasks = pre ++ .cancelTimer timer :: post →
    queue.made timer = true ∧ (queue.added timer = true ∨ .addTimer timer ∈ pre)

/-- Every cancellation so far: the timer is gone, and the calls made since and still due are
within the bound. -/
def LogInv (queue : TimerQueue) (log : List TimerEvent) : Prop :=
  ∀ pre timer taken post, log = pre ++ .cancelled timer taken :: post →
    queue.Gone timer ∧ post.count (.started timer) + queue.due timer ≤ if taken then 1 else 0

structure LoopInv (s : TimerLoop) : Prop where
  queue : s.queue.TimerInv
  stage : s.queue.stage ≠ .idle → s.InHandleRead
  tasks : TasksInv s.queue s.looping.waiting
  log : LogInv s.queue s.log

/-! ### The waiting tasks -/

variable {queue queue' : TimerQueue} {tasks : List TimerTask} {log : List TimerEvent} {timer : ℕ}

/-- The first task is executed. -/
lemma TasksInv.tail {task : TimerTask} (h : TasksInv queue (task :: tasks))
    (hmade : queue'.made = queue.made)
    (hadded : ∀ timer, queue'.added timer = true ↔
      queue.added timer = true ∨ task = .addTimer timer) : TasksInv queue' tasks where
  add timer hmem := by
    obtain ⟨hm, ha, hcount⟩ := h.add timer (List.mem_cons_of_mem _ hmem)
    -- every timer is added by one task only, so the executed one was not that of `timer`
    have hpos := List.count_pos_iff.mpr hmem
    have hne : task ≠ .addTimer timer := by
      rintro rfl
      rw [List.count_cons_self] at hcount
      omega
    refine ⟨by rw [hmade, hm], ?_, ?_⟩
    · rw [Bool.eq_false_iff, ne_eq, hadded, not_or, ha]
      exact ⟨Bool.false_ne_true, hne⟩
    · rwa [List.count_cons_of_ne hne] at hcount
  made timer hm := by
    rw [hmade] at hm
    rw [hadded]
    rcases h.made timer hm with ha | hmem
    · exact Or.inl (Or.inl ha)
    · rcases List.mem_cons.mp hmem with heq | hmem
      · exact Or.inl (Or.inr heq.symm)
      · exact Or.inr hmem
  cancel pre timer post hsplit := by
    obtain ⟨hm, ha⟩ := h.cancel (task :: pre) timer post (by rw [hsplit, List.cons_append])
    refine ⟨by rw [hmade, hm], ?_⟩
    rw [hadded]
    rcases ha with ha | hmem
    · exact Or.inl (Or.inl ha)
    · rcases List.mem_cons.mp hmem with heq | hmem
      · exact Or.inl (Or.inr heq.symm)
      · exact Or.inr hmem

/-- A step of the queue that makes and adds no timer. -/
lemma TasksInv.same (h : TasksInv queue tasks) (hmade : queue'.made = queue.made)
    (hadded : queue'.added = queue.added) : TasksInv queue' tasks where
  add timer hmem := by
    rw [hmade, hadded]
    exact h.add timer hmem
  made timer hm := by
    rw [hadded]
    rw [hmade] at hm
    exact h.made timer hm
  cancel pre timer post hsplit := by
    rw [hmade, hadded]
    exact h.cancel pre timer post hsplit

lemma append_singleton_split {α : Type} {l pre post : List α} {x y : α}
    (h : l ++ [x] = pre ++ y :: post) :
    (l = pre ∧ x = y ∧ post = []) ∨ ∃ post', post = post' ++ [x] ∧ l = pre ++ y :: post' := by
  rcases List.eq_nil_or_concat post with rfl | ⟨post', z, rfl⟩
  · obtain ⟨hl, hx⟩ := List.append_inj' h rfl
    exact Or.inl ⟨hl, (List.cons.inj hx).1, rfl⟩
  · rw [List.concat_eq_append, ← List.cons_append, ← List.append_assoc] at h
    obtain ⟨hl, hx⟩ := List.append_inj' h rfl
    rw [(List.cons.inj hx).1, List.concat_eq_append]
    exact Or.inr ⟨post', rfl, hl⟩

/-- `runAt` in another thread: the new timer's `addTimer` waits. -/
lemma TasksInv.push_add (h : TasksInv queue tasks) (hnew : queue.made timer = false)
    (hadd : queue.added timer = false) :
    TasksInv { queue with made := Function.update queue.made timer true }
      (tasks ++ [.addTimer timer]) where
  add timer' hmem := by
    by_cases hne : timer' = timer
    · subst hne
      -- a timer that is not made yet has no task
      have hnot : .addTimer timer' ∉ tasks := by
        intro hmem
        rw [(h.add timer' hmem).1] at hnew
        cases hnew
      refine ⟨Function.update_self .., hadd, ?_⟩
      rw [List.count_append, List.count_eq_zero.mpr hnot, List.count_singleton_self]
    · have hmem : .addTimer timer' ∈ tasks := by
        simpa [hne] using hmem
      obtain ⟨hm, ha, hcount⟩ := h.add timer' hmem
      refine ⟨(Function.update_of_ne hne ..).trans hm, ha, ?_⟩
      rw [List.count_append, hcount, List.count_eq_zero.mpr (by simpa using hne)]
  made timer' hm := by
    by_cases hne : timer' = timer
    · subst hne
      exact Or.inr (List.mem_append_right _ List.mem_cons_self)
    · simp only [Function.update_of_ne hne] at hm
      exact (h.made timer' hm).imp_right (List.mem_append_left _)
  cancel pre timer' post hsplit := by
    rcases append_singleton_split hsplit with ⟨_, heq, _⟩ | ⟨post', _, hsplit⟩
    · cases heq
    · obtain ⟨hm, ha⟩ := h.cancel pre timer' post' hsplit
      refine ⟨?_, ha⟩
      by_cases hne : timer' = timer
      · rw [hne]
        exact Function.update_self ..
      · exact (Function.update_of_ne hne ..).trans hm

/-- `runAt` in the loop thread: the new timer is added at once. -/
lemma TasksInv.add_now (h : TasksInv queue tasks) (hnew : queue.made timer = false)
    (hmade : queue'.made = Function.update queue.made timer true)
    (hadded : queue'.added = Function.update queue.added timer true) : TasksInv queue' tasks where
  add timer' hmem := by
    obtain ⟨hm, ha, hcount⟩ := h.add timer' hmem
    have hne : timer' ≠ timer := by
      rintro rfl
      rw [hm] at hnew
      cases hnew
    rw [hmade, hadded, Function.update_of_ne hne, Function.update_of_ne hne]
    exact ⟨hm, ha, hcount⟩
  made timer' hm := by
    by_cases hne : timer' = timer
    · rw [hadded, hne]
      exact Or.inl (Function.update_self ..)
    · rw [hmade, Function.update_of_ne hne] at hm
      rw [hadded, Function.update_of_ne hne]
      exact h.made timer' hm
  cancel pre timer' post hsplit := by
    obtain ⟨hm, ha⟩ := h.cancel pre timer' post hsplit
    have hne : timer' ≠ timer := by
      rintro rfl
      rw [hm] at hnew
      cases hnew
    rw [hmade, hadded, Function.update_of_ne hne, Function.update_of_ne hne]
    exact ⟨hm, ha⟩

/-- A task other than `addTimer` is queued. -/
lemma TasksInv.push {task : TimerTask} (h : TasksInv queue tasks)
    (hadd : ∀ timer, task ≠ .addTimer timer)
    (hcancel : ∀ timer, task = .cancelTimer timer → queue.made timer = true) :
    TasksInv queue (tasks ++ [task]) where
  add timer hmem := by
    have hmem : .addTimer timer ∈ tasks := by
      simpa [(hadd timer).symm] using hmem
    obtain ⟨hm, ha, hcount⟩ := h.add timer hmem
    refine ⟨hm, ha, ?_⟩
    rw [List.count_append, hcount, List.count_eq_zero.mpr (by simpa using (hadd timer).symm)]
  made timer hm := (h.made timer hm).imp_right (List.mem_append_left _)
  cancel pre timer post hsplit := by
    rcases append_singleton_split hsplit with ⟨rfl, heq, _⟩ | ⟨post', _, hsplit⟩
    · -- the timer's `addTimer` is among the tasks queued before
      exact ⟨hcancel timer heq, h.made timer (hcancel timer heq)⟩
    · exact h.cancel pre timer post' hsplit

/-! ### The log -/

lemma LogInv.step (h : LogInv queue log)
    (hgone : ∀ timer, queue.Gone timer → queue'.Gone timer)
    (hdue : ∀ timer, queue.Gone timer → queue'.due timer ≤ queue.due timer) :
    LogInv queue' log := by
  intro pre timer taken post hsplit
  obtain ⟨hg, hcount⟩ := h pre timer taken post hsplit
  have hle := hdue timer hg
  exact ⟨hgone timer hg, by omega⟩

lemma LogInv.cancelled (h : LogInv queue log) {taken : Bool} (hgone : queue.Gone timer)
    (hdue : queue.due timer ≤ if taken then 1 else 0) :
    LogInv queue (log ++ [.cancelled timer taken]) := by
  intro pre timer' taken' post hsplit
  rcases append_singleton_split hsplit with ⟨_, heq, rfl⟩ | ⟨post', rfl, hlog⟩
  · obtain ⟨rfl, rfl⟩ := TimerEvent.cancelled.inj heq
    refine ⟨hgone, ?_⟩
    rw [List.count_nil]
    omega
  · obtain ⟨hg, hcount⟩ := h pre timer' taken' post' hlog
    have hnone : [TimerEvent.cancelled timer taken].count (.started timer') = 0 := by simp
    refine ⟨hg, ?_⟩
    rw [List.count_append, hnone]
    omega

/-- The start of a callback moves it from those due to those called. -/
lemma LogInv.started {now : ℤ} {expired rest : List TimerEntry} {e : TimerEntry}
    (h : LogInv queue log) (hstage : queue.stage = .firing now expired (e :: rest))
    (hgone : ∀ timer, queue.Gone timer →
      Gone { queue with stage := .firing now expired rest } timer) :
    LogInv { queue with stage := .firing now expired rest } (log ++ [.started e.second]) := by
  intro pre timer taken post hsplit
  rcases append_singleton_split hsplit with ⟨_, heq, _⟩ | ⟨post', rfl, hlog⟩
  · cases heq
  · obtain ⟨hg, hcount⟩ := h pre timer taken post' hlog
    refine ⟨hgone timer hg, ?_⟩
    have hdue : queue.due timer = (rest.map TimerEntry.second).count timer +
        [TimerEvent.started e.second].count (.started timer) := by
      rw [due, hstage]
      show (e.second :: rest.map TimerEntry.second).count timer = _
      rw [List.count_cons, List.count_singleton]
      by_cases heq : e.second = timer <;> simp [heq]
    rw [List.count_append]
    show _ + (rest.map TimerEntry.second).count timer ≤ _
    omega

/-! ### Steps -/

variable {s s' : TimerLoop}

/-- What a step of the queue does to the flags of the timers and to the stage. -/
lemma exec_frame {q q' : TimerQueue} {a : TimerQueue.Action} (h : TimerQueue.exec r q a = .ok q') :
    match a with
    | .make timer _ => q'.made = Function.update q.made timer true ∧ q'.added = q.added ∧
        q'.stage = q.stage
    | .addTimer timer => q'.made = q.made ∧ q'.added = Function.update q.added timer true ∧
        q'.stage = q.stage
    | .cancelTimer _ | .tick _ => q'.made = q.made ∧ q'.added = q.added ∧ q'.stage = q.stage
    | _ => q'.made = q.made ∧ q'.added = q.added := by
  cases a with
  | make timer value =>
    obtain rfl := Except.ok.inj h
    exact ⟨rfl, rfl, rfl⟩
  | addTimer timer =>
    obtain ⟨q₁, hadd, h⟩ := except_bind_eq_ok.mp h
    obtain rfl := Except.ok.inj h
    obtain ⟨_, timerfd, rfl, -, -⟩ := addTimer_ok hadd
    exact ⟨rfl, rfl, rfl⟩
  | cancelTimer timer =>
    obtain rfl := Except.ok.inj h
    simp only [TimerQueue.cancelTimer]
    split <;> exact ⟨rfl, rfl, rfl⟩
  | handleRead =>
    obtain rfl := handleRead_ok h
    exact ⟨rfl, rfl⟩
  | run =>
    simp only [TimerQueue.exec] at h
    split at h <;> (obtain rfl := Except.ok.inj h; exact ⟨rfl, rfl⟩)
  | reset =>
    simp only [TimerQueue.exec] at h
    split at h
    · obtain ⟨q₁, hreset, h⟩ := except_bind_eq_ok.mp h
      obtain rfl := Except.ok.inj h
      obtain ⟨q₂, hloop, timerfd, rfl, -⟩ := reset_ok hreset
      obtain ⟨timers_, heap, rfl⟩ := resetLoop_frame hloop
      exact ⟨rfl, rfl⟩
    · obtain rfl := Except.ok.inj h
      exact ⟨rfl, rfl⟩
  | tick microseconds =>
    obtain rfl := Except.ok.inj h
    exact ⟨rfl, rfl, rfl⟩

/-- The part of the invariant about the queue and the log. -/
def Kept (s : TimerLoop) : Prop := s.queue.TimerInv ∧ LogInv s.queue s.log

lemma onQueue_ok {a : TimerQueue.Action} (h : s.onQueue r a = .ok s') :
    ∃ queue, TimerQueue.exec r s.queue a = .ok queue ∧ s' = { s with queue := queue } := by
  obtain ⟨queue, hqueue, h⟩ := except_bind_eq_ok.mp h
  exact ⟨queue, hqueue, (Except.ok.inj h).symm⟩

lemma Kept.onQueue {a : TimerQueue.Action} {queue : TimerQueue} (h : s.Kept)
    (hallowed : TimerQueue.allowed s.queue a) (hrun : a ≠ .run)
    (hexec : TimerQueue.exec r s.queue a = .ok queue) : Kept { s with queue := queue } :=
  ⟨timerInv_step h.1 hallowed hexec,
    h.2.step (fun _ hgone => gone_step h.1 hallowed hexec hgone)
      (fun _ hgone => due_step hexec hrun hgone)⟩

lemma Kept.addTimer (h : s.Kept) (hmade : s.queue.made timer = true)
    (hnew : s.queue.added timer = false) (hadd : s.addTimer r timer = .ok s') :
    s'.Kept ∧ s'.looping = s.looping ∧ s'.queue.made = s.queue.made ∧
      s'.queue.added = Function.update s.queue.added timer true ∧
      s'.queue.stage = s.queue.stage := by
  obtain ⟨_, _, hadd⟩ := except_bind_eq_ok.mp hadd
  obtain ⟨queue, hexec, rfl⟩ := onQueue_ok hadd
  exact ⟨h.onQueue (a := .addTimer timer) ⟨hmade, hnew⟩ (by simp) hexec, rfl, exec_frame hexec⟩

/-- `cancelTimer` of an added timer enters a cancellation that holds. -/
lemma Kept.cancelTimer (h : s.Kept) (hmade : s.queue.made timer = true)
    (hadded : s.queue.added timer = true) (hcancel : s.cancelTimer r timer = .ok s') :
    s'.Kept ∧ s'.looping = s.looping ∧ s'.queue.made = s.queue.made ∧
      s'.queue.added = s.queue.added ∧ s'.queue.stage = s.queue.stage := by
  obtain ⟨_, _, hcancel⟩ := except_bind_eq_ok.mp hcancel
  obtain ⟨s₁, honQueue, hcancel⟩ := except_bind_eq_ok.mp hcancel
  obtain ⟨queue, hexec, rfl⟩ := onQueue_ok honQueue
  obtain rfl := Except.ok.inj hcancel
  have hkept := h.onQueue (a := .cancelTimer timer) hmade (by simp) hexec
  have hframe := exec_frame hexec
  obtain rfl := Except.ok.inj hexec
  refine ⟨⟨hkept.1, hkept.2.cancelled (gone_cancelTimer h.1 hadded) ?_⟩, rfl, hframe⟩
  -- a timer that is not due is not called again
  have hdue : (s.queue.cancelTimer timer).due timer = s.queue.due timer := by
    rw [due, due, hframe.2.2]
  show (s.queue.cancelTimer timer).due timer ≤ _
  rw [hdue]
  by_cases hmem : timer ∈ s.queue.stage.rest.map TimerEntry.second
  · simp only [hmem, decide_true, if_true]
    exact due_le_one h.1 timer
  · simp only [hmem, decide_false, Bool.false_eq_true, if_false]
    exact le_of_eq (List.count_eq_zero.mpr hmem)

/-- The handler of the timerfd is left only by its end. -/
lemma inHandleRead_step {a : Looping.Action TimerTask TimerChannel}
    {looping : Looping.State TimerTask TimerChannel} (hallowed : Looping.allowed s.looping a)
    (hexec : Looping.exec s.looping a = .ok looping) (hend : a ≠ .endHandler)
    (h : s.InHandleRead) : InHandleRead { s with looping := looping } := by
  unfold InHandleRead at h
  split at h
  · rename_i rest hphase
    cases a with
    | assertInLoop =>
      obtain ⟨_, _, hexec⟩ := except_bind_eq_ok.mp hexec
      obtain rfl := Except.ok.inj hexec
      simp only [InHandleRead, hphase]
    | quit _ | queueInLoop _ _ =>
      obtain rfl := Except.ok.inj hexec
      simp only [InHandleRead, hphase]
    | endHandler => exact absurd rfl hend
    | _ => simp [Looping.allowed, hphase] at hallowed
  · exact absurd h id

lemma inHandleRead_iff (h : s'.looping = s.looping) : s'.InHandleRead ↔ s.InHandleRead := by
  unfold InHandleRead
  rw [h]

lemma queueInLoop_waiting (s : TimerLoop) (cb : TimerTask) :
    (s.queueInLoop cb).looping.waiting = s.looping.waiting ++ [cb] := by
  simp only [queueInLoop, Looping.State.waiting, EventLoop.queueInLoop, EventLoop.wakeup]
  split <;> simp

/-- A step of `loop()`. -/
lemma loopInv_loop {a : Looping.Action TimerTask TimerChannel} (h : s.LoopInv)
    (hallowed : allowed s (.step a)) (hexec : exec r s (.step a) = .ok s') : s'.LoopInv := by
  obtain ⟨hmay, hallowed⟩ := hallowed
  obtain ⟨looping, hlooping, hexec⟩ := except_bind_eq_ok.mp hexec
  have hwaiting := Looping.exec_waiting hallowed hlooping
  have hstage : a ≠ .endHandler → s.queue.stage ≠ .idle →
      InHandleRead { s with looping := looping } :=
    fun hend hs => inHandleRead_step hallowed hlooping hend (h.stage hs)
  have hkept : Kept { s with looping := looping } := ⟨h.queue, h.log⟩
  cases a with
  | nextTask =>
    obtain ⟨task, rest, hphase, hwaiting⟩ := hwaiting
    have htasks := h.tasks
    rw [hwaiting] at htasks
    simp only [begin, hphase] at hexec
    cases task with
    | addTimer timer =>
      -- the queue has not seen the timer before its task
      obtain ⟨hmade, hnew, -⟩ := htasks.add timer List.mem_cons_self
      obtain ⟨hkept', hsame, hm, ha, hs⟩ := hkept.addTimer hmade hnew hexec
      refine ⟨hkept'.1, fun hidle => ?_, ?_, hkept'.2⟩
      · rw [hs] at hidle
        exact (inHandleRead_iff hsame).mpr (hstage (by simp) hidle)
      · rw [hsame]
        refine htasks.tail hm fun timer' => ?_
        rw [ha]
        by_cases hne : timer' = timer
        · simp [hne]
        · simp [Function.update_of_ne hne, Ne.symm hne]
    | cancelTimer timer =>
      obtain ⟨hmade, hadded⟩ := htasks.cancel [] timer _ rfl
      -- nothing is in front of the task, so `addTimer` is behind us
      have hadded := hadded.resolve_right List.not_mem_nil
      obtain ⟨hkept', hsame, hm, ha, hs⟩ := hkept.cancelTimer hmade hadded hexec
      refine ⟨hkept'.1, fun hidle => ?_, ?_, hkept'.2⟩
      · rw [hs] at hidle
        exact (inHandleRead_iff hsame).mpr (hstage (by simp) hidle)
      · rw [hsame]
        exact htasks.tail hm fun timer' => by simp [ha]
    | task cb =>
      obtain rfl := Except.ok.inj hexec
      exact ⟨h.queue, hstage (by simp), htasks.tail rfl fun timer' => by simp, h.log⟩
  | nextChannel =>
    obtain ⟨channel, rest, hphase⟩ := hallowed
    simp only [Looping.exec, hphase, Except.ok.injEq] at hlooping
    subst hlooping
    -- between two handlers no `handleRead` is in progress
    have hidle : s.queue.stage = .idle := by
      by_contra hne
      have hread := h.stage hne
      rw [InHandleRead, hphase] at hread
      exact hread
    have htasks := h.tasks
    rw [← hwaiting] at htasks
    cases channel with
    | timerfdChannel =>
      obtain ⟨_, _, hexec⟩ := except_bind_eq_ok.mp hexec
      obtain ⟨queue, hqueue, rfl⟩ := onQueue_ok hexec
      have hkept' := hkept.onQueue (a := .handleRead) hidle (by simp) hqueue
      have hframe := exec_frame hqueue
      exact ⟨hkept'.1, fun _ => trivial, htasks.same hframe.1 hframe.2, hkept'.2⟩
    | other channel =>
      obtain rfl := Except.ok.inj hexec
      exact ⟨h.queue, fun hne => absurd hidle hne, htasks, h.log⟩
  | queueInLoop currentTid cb =>
    cases cb with
    | addTimer timer => exact absurd hmay id
    | cancelTimer timer => exact absurd hmay id
    | task cb =>
      obtain rfl := Except.ok.inj hexec
      refine ⟨h.queue, hstage (by simp), ?_, h.log⟩
      rw [hwaiting]
      exact h.tasks.push (by simp) (by simp)
  | endHandler =>
    obtain rfl := Except.ok.inj hexec
    refine ⟨h.queue, fun hne => absurd hmay hne, ?_, h.log⟩
    rw [hwaiting]
    exact h.tasks
  | _ =>
    obtain rfl := Except.ok.inj hexec
    refine ⟨h.queue, hstage (by simp), ?_, h.log⟩
    rw [hwaiting]
    exact h.tasks

/-- `runAt` and `runEvery`. -/
lemma loopInv_runAt {currentTid : ℤ} {value : Timer} (h : s.LoopInv)
    (hallowed : allowed s (.runAt currentTid timer value))
    (hexec : exec r s (.runAt currentTid timer value) = .ok s') : s'.LoopInv := by
  obtain ⟨_, hnew⟩ := hallowed
  obtain ⟨s₁, hmake, hexec⟩ := except_bind_eq_ok.mp hexec
  obtain ⟨queue, hqueue, rfl⟩ := onQueue_ok hmake
  have hkept := Kept.onQueue (s := s) (a := .make timer value) ⟨h.queue, h.log⟩ hnew (by simp) hqueue
  obtain ⟨hm, ha, hs⟩ := exec_frame hqueue
  -- a timer that has not been made has not been added
  have hadded : s.queue.added timer = false := by
    rw [Bool.eq_false_iff]
    intro hadded
    rw [h.queue.made timer hadded] at hnew
    cases hnew
  split at hexec
  · have hmade : queue.made timer = true := by rw [hm, Function.update_self]
    obtain ⟨hkept', hsame, hm', ha', hs'⟩ :=
      hkept.addTimer hmade (by rw [ha]; exact hadded) hexec
    refine ⟨hkept'.1, fun hidle => ?_, ?_, hkept'.2⟩
    · rw [hs', hs] at hidle
      exact (inHandleRead_iff (s := s) hsame).mpr (h.stage hidle)
    · rw [hsame]
      exact h.tasks.add_now hnew (hm'.trans hm) (by rw [ha', ha])
  · obtain rfl := Except.ok.inj hexec
    refine ⟨hkept.1, fun hidle => ?_, ?_, hkept.2⟩
    · exact h.stage (by rw [← hs]; exact hidle)
    · rw [queueInLoop_waiting]
      exact (h.tasks.push_add hnew hadded).same hm ha

lemma loopInv_cancel {currentTid : ℤ} (h : s.LoopInv)
    (hinline : s.InlineAdded (.cancel currentTid timer))
    (hallowed : allowed s (.cancel currentTid timer))
    (hexec : exec r s (.cancel currentTid timer) = .ok s') : s'.LoopInv := by
  obtain ⟨_, hmade⟩ := hallowed
  have hkept : s.Kept := ⟨h.queue, h.log⟩
  rw [exec] at hexec
  split at hexec
  · rename_i hinLoop
    obtain ⟨hkept', hsame, hm, ha, hs⟩ := hkept.cancelTimer hmade (hinline hinLoop) hexec
    refine ⟨hkept'.1, fun hidle => ?_, ?_, hkept'.2⟩
    · rw [hs] at hidle
      exact (inHandleRead_iff hsame).mpr (h.stage hidle)
    · rw [hsame]
      exact h.tasks.same hm ha
  · obtain rfl := Except.ok.inj hexec
    refine ⟨h.queue, h.stage, ?_, h.log⟩
    rw [queueInLoop_waiting]
    refine h.tasks.push (by simp) fun timer' heq => ?_
    rw [← TimerTask.cancelTimer.inj heq]
    exact hmade

lemma loopInv_step {a : Action} (h : s.LoopInv) (hinline : s.InlineAdded a)
    (hallowed : allowed s a) (hexec : exec r s a = .ok s') : s'.LoopInv := by
  have hkept : s.Kept := ⟨h.queue, h.log⟩
  cases a with
  | step a => exact loopInv_loop h hallowed hexec
  | runAt currentTid timer value => exact loopInv_runAt h hallowed hexec
  | cancel currentTid timer => exact loopInv_cancel h hinline hallowed hexec
  | run =>
    simp only [exec] at hexec
    split at hexec
    · obtain rfl := Except.ok.inj hexec
      exact h
    · rename_i e rest hrest
      obtain ⟨s₁, honQueue, hexec⟩ := except_bind_eq_ok.mp hexec
      obtain ⟨queue, hqueue, rfl⟩ := onQueue_ok honQueue
      obtain rfl := Except.ok.inj hexec
      -- the callback starts with a timer that was due and that nothing has cancelled
      have hinv := timerInv_step (a := .run) h.queue hallowed.2 hqueue
      have hgone := fun timer (hgone : s.queue.Gone timer) =>
        gone_step (a := .run) h.queue hallowed.2 hqueue hgone
      have hframe := exec_frame hqueue
      cases hstage : s.queue.stage with
      | idle =>
        rw [hstage] at hrest
        cases hrest
      | firing now expired rest' =>
        rw [hstage] at hrest
        have hrest : rest' = e :: rest := hrest
        subst hrest
        simp only [TimerQueue.exec, hstage, Except.ok.injEq] at hqueue
        subst hqueue
        exact ⟨hinv, fun _ => hallowed.1, h.tasks.same hframe.1 hframe.2,
          h.log.started hstage hgone⟩
  | reset =>
    obtain ⟨queue, hqueue, rfl⟩ := onQueue_ok hexec
    have hkept' := hkept.onQueue (a := .reset) hallowed.2 (by simp) hqueue
    have hframe := exec_frame hqueue
    exact ⟨hkept'.1, fun _ => hallowed.1, h.tasks.same hframe.1 hframe.2, hkept'.2⟩
  | tick microseconds =>
    obtain ⟨queue, hqueue, rfl⟩ := onQueue_ok hexec
    have hkept' := hkept.onQueue (a := .tick microseconds) trivial (by simp) hqueue
    obtain ⟨hm, ha, hs⟩ := exec_frame hqueue
    refine ⟨hkept'.1, fun hidle => h.stage ?_, h.tasks.same hm ha, hkept'.2⟩
    rw [← hs]
    exact hidle

lemma loopInv_start (boot : ℕ) : (start boot).LoopInv where
  queue := timerInv_start boot
  stage hne := absurd rfl hne
  tasks := ⟨fun _ hmem => absurd hmem List.not_mem_nil, fun _ hm => absurd hm Bool.false_ne_true,
    fun pre _ _ hsplit => by cases pre <;> cases hsplit⟩
  log pre _ _ _ hsplit := by cases pre <;> cases hsplit

/-- **Cancellation.** In every run in which no `cancel` in the loop thread overtakes its timer's
waiting `addTimer`, a cancelled timer's callback is not called again, but once when the
`handleRead` in progress had taken it out before. -/
theorem cancelsHold_of_inlineAdded {boot : ℕ} {as : List Action} {s : TimerLoop}
    (hrun : (machine r).Run (start boot) as s)
    (hinline : (machine r).AllSteps InlineAdded (start boot) as) : CancelsHold s.log := by
  have hinv : s.LoopInv := hrun.invariant hinline (loopInv_start boot)
    fun s a s' h hP hallowed hexec => loopInv_step h hP hallowed hexec
  intro pre timer taken post hsplit
  have hcount := (hinv.log pre timer taken post hsplit).2
  omega

/-- Thread 1 enters the loop, and its channel 9 is active. -/
def enterHandler : List Action :=
  [.step (.call 1), .step .clearStop, .step .assertEntry, .step .test, .step .swap,
    .step (.poll [.other 9]), .step .nextChannel]

/-- Up to the timer's expiration. -/
def expireTimer : List Action :=
  [.step .endHandler, .step .again, .step .test, .step .swap, .step .nextTask, .step .endTask,
    .tick 1000, .step (.poll [.timerfdChannel]), .step .nextChannel, .run]

/-- Two timers are due; the first callback cancels the second. -/
def cancelInBatch : List Action :=
  enterHandler ++ [.runAt 1 4 ⟨300, 1⟩, .runAt 2 5 ⟨400, 1⟩] ++ expireTimer ++
    [.cancel 1 5, .run, .reset]

theorem cancelsHold_cancelInBatch :
    ∃ s, (machine .exact).Run (start 0) cancelInBatch s ∧
      s.log = [.started 4, .cancelled 5 true, .started 5] ∧ CancelsHold s.log := by
  obtain ⟨s, hrun, hlog⟩ := Machine.Run.of_replay_map (machine .exact) (start 0) cancelInBatch
    (fun s => decide (s.log = [.started 4, .cancelled 5 true, .started 5])) (by decide +kernel)
  exact ⟨s, hrun, of_decide_eq_true hlog, cancelsHold_of_inlineAdded hrun (by decide +kernel)⟩

/-- Thread 2 makes a timer, and a handler of the loop cancels it before its `addTimer` runs. -/
def cancelBeforeAdd : List Action :=
  enterHandler ++ [.runAt 2 5 ⟨400, 0⟩, .cancel 1 5] ++ expireTimer

/-- The cancelled timer fires. -/
theorem not_cancelsHold :
    ¬∀ (r : Rounding) (boot : ℕ) (as : List Action) (s : TimerLoop),
      (machine r).Run (start boot) as s → CancelsHold s.log := by
  intro h
  obtain ⟨s, hrun, hlog⟩ := Machine.Run.of_replay_map (machine .exact) (start 0) cancelBeforeAdd
    (fun s => decide (s.log = [.cancelled 5 false, .started 5])) (by decide +kernel)
  have hcount := h .exact 0 cancelBeforeAdd s hrun [] 5 false [.started 5] (of_decide_eq_true hlog)
  revert hcount
  decide

end TimerLoop
end Miniduo
