import Miniduo.EventLoop

/-!
# Who is in the loop thread

`isInLoopThread` reads the stop flag, so it is right about the looping thread exactly as long as
nobody has called `quit()` since `loop()` cleared that flag.
-/

namespace Miniduo
namespace Looping

variable {τ κ : Type}

/-- Whether `quit()` has been called since `stoplooping_` was last cleared. -/
def quitSinceClear (quit : Bool) : Action τ κ → Bool
  | .clearStop => false
  | .quit _ => true
  | _ => quit

/-- The looping thread recognises itself. -/
def RecognisesItself (s : State τ κ) : Prop :=
  s.loop.isInLoopThread s.thread = true ∧ exec s .assertInLoop = .ok s

/-- From `settid` on `tid_` is the looping thread, and from the clearing of the flag on the flag
says whether `quit()` has been called. -/
def ThreadInv (s : State τ κ) (quit : Bool) : Prop :=
  match s.phase with
  | .idle => True
  | .entered => s.loop.tid_ = s.thread
  | _ => s.loop.tid_ = s.thread ∧ s.loop.stoplooping_ = quit

/-- Steps between two points of the body of `loop()` keep what is known there. -/
lemma threadInv_move {s s' : State τ κ} {quit : Bool} (h : ThreadInv s quit)
    (hidle : s.phase ≠ .idle) (hentered : s.phase ≠ .entered) (hthread : s'.thread = s.thread)
    (htid : s'.loop.tid_ = s.loop.tid_) (hstop : s'.loop.stoplooping_ = s.loop.stoplooping_) :
    ThreadInv s' quit := by
  have hbody : s.loop.tid_ = s.thread ∧ s.loop.stoplooping_ = quit := by
    unfold ThreadInv at h
    split at h
    · exact absurd ‹_› hidle
    · exact absurd ‹_› hentered
    · exact h
  unfold ThreadInv
  rw [htid, hthread, hstop]
  split
  · trivial
  · exact hbody.1
  · exact hbody

lemma threadInv_step {s s' : State τ κ} {a : Action τ κ} {quit : Bool} (h : ThreadInv s quit)
    (hallowed : allowed s a) (hexec : exec s a = .ok s') :
    ThreadInv s' (quitSinceClear quit a) := by
  cases a with
  | call thread =>
    obtain ⟨_, _, hexec⟩ := except_bind_eq_ok.mp hexec
    obtain rfl := Except.ok.inj hexec
    exact rfl
  | clearStop =>
    have hphase : s.phase = .entered := hallowed
    obtain rfl := Except.ok.inj hexec
    simp only [ThreadInv, hphase] at h
    exact ⟨h, rfl⟩
  | assertEntry =>
    have hphase : s.phase = .cleared := hallowed
    obtain ⟨_, _, hexec⟩ := except_bind_eq_ok.mp hexec
    obtain rfl := Except.ok.inj hexec
    -- behind the two assignments of `loop()` no step touches the flag but `quit`
    exact threadInv_move h (by simp [hphase]) (by simp [hphase]) rfl rfl rfl
  | test =>
    have hphase : s.phase = .top := hallowed
    simp only [exec] at hexec
    split at hexec
    · obtain rfl := Except.ok.inj hexec
      trivial
    · obtain rfl := Except.ok.inj hexec
      exact threadInv_move h (by simp [hphase]) (by simp [hphase]) rfl rfl rfl
  | swap =>
    have hphase : s.phase = .body := hallowed
    obtain rfl := Except.ok.inj hexec
    exact threadInv_move h (by simp [hphase]) (by simp [hphase]) rfl rfl rfl
  | nextTask =>
    obtain ⟨task, rest, hphase⟩ := hallowed
    simp only [exec, hphase, Except.ok.injEq] at hexec
    subst hexec
    exact threadInv_move h (by simp [hphase]) (by simp [hphase]) rfl rfl rfl
  | endTask =>
    obtain ⟨task, rest, hphase⟩ := hallowed
    simp only [exec, hphase, Except.ok.injEq] at hexec
    subst hexec
    exact threadInv_move h (by simp [hphase]) (by simp [hphase]) rfl rfl rfl
  | poll activeChannels =>
    have hphase : s.phase = .tasks [] := hallowed
    obtain rfl := Except.ok.inj hexec
    exact threadInv_move h (by simp [hphase]) (by simp [hphase]) rfl rfl rfl
  | nextChannel =>
    obtain ⟨channel, rest, hphase⟩ := hallowed
    simp only [exec, hphase, Except.ok.injEq] at hexec
    subst hexec
    exact threadInv_move h (by simp [hphase]) (by simp [hphase]) rfl rfl rfl
  | endHandler =>
    obtain ⟨channel, rest, hphase⟩ := hallowed
    simp only [exec, hphase, Except.ok.injEq] at hexec
    subst hexec
    exact threadInv_move h (by simp [hphase]) (by simp [hphase]) rfl rfl rfl
  | again =>
    have hphase : s.phase = .channels [] := hallowed
    obtain rfl := Except.ok.inj hexec
    exact threadInv_move h (by simp [hphase]) (by simp [hphase]) rfl rfl rfl
  | assertInLoop =>
    obtain ⟨_, _, hexec⟩ := except_bind_eq_ok.mp hexec
    obtain rfl := Except.ok.inj hexec
    exact h
  | quit currentTid =>
    obtain rfl := Except.ok.inj hexec
    unfold ThreadInv at h ⊢
    simp only [EventLoop.quit_tid, EventLoop.quit_stoplooping]
    split at h
    · trivial
    · exact h
    · exact ⟨h.1, rfl⟩
  | queueInLoop currentTid cb =>
    obtain rfl := Except.ok.inj hexec
    exact h

/-- The flag and the thread id along a run. -/
lemma threadInv_run {s s' : State τ κ} {as : List (Action τ κ)} {quit : Bool}
    (hrun : (machine τ κ).Run s as s') (h : ThreadInv s quit) :
    ThreadInv s' (as.foldl quitSinceClear quit) := by
  induction hrun generalizing quit with
  | nil s => exact h
  | cons hallowed hexec _ ih => exact ih (threadInv_step h hallowed hexec)

/-- **The looping thread recognises itself** inside a task or a handler iff `quit()` has not been
called since `loop()` cleared the stop flag. -/
theorem recognisesItself_iff {s : State τ κ} {as : List (Action τ κ)}
    (hrun : (machine τ κ).Run {} as s) (hexecuting : s.Executing) :
    RecognisesItself s ↔ as.foldl quitSinceClear false = false := by
  have hinv := threadInv_run hrun (show ThreadInv ({} : State τ κ) false from trivial)
  generalize as.foldl quitSinceClear false = quit at hinv
  -- a task or a handler runs in the body of the loop
  have hbody : s.loop.tid_ = s.thread ∧ s.loop.stoplooping_ = quit := by
    unfold ThreadInv at hinv
    unfold State.Executing at hexecuting
    cases hphase : s.phase <;> simp_all
  have hself : s.loop.isInLoopThread s.thread = true ↔ quit = false := by
    rw [EventLoop.isInLoopThread_iff, hbody.2]
    exact and_iff_left hbody.1
  rw [← hself]
  refine ⟨fun h => h.1, fun h => ⟨h, ?_⟩⟩
  show (do s.loop.assertInLoopThread s.thread; return s : Except Fault (State τ κ)) = _
  rw [(EventLoop.assertInLoopThread_eq_ok _ _).mpr h]
  rfl

/-- Two tasks of one batch, of which the first calls `quit()`. -/
def quitInBatch : List (Action ℕ ℕ) :=
  [.queueInLoop 2 0, .queueInLoop 2 1, .call 1, .clearStop, .assertEntry, .test, .swap, .nextTask,
    .quit 1, .endTask, .nextTask]

/-- The second task does not recognise its thread. -/
lemma quitInBatch_run : (machine ℕ ℕ).Run {} quitInBatch
    ⟨⟨true, 1, [], 2⟩, 1, .runningTask 1 []⟩ := by
  have hother : ∀ {s : State ℕ ℕ}, s.thread = -1 → s.MayCall 2 := by
    intro s hs h
    rw [hs] at h
    exact absurd h (by decide)
  exact .cons (hother rfl) rfl <| .cons (hother rfl) rfl <| .cons rfl rfl <| .cons rfl rfl <|
    .cons rfl rfl <| .cons rfl rfl <| .cons rfl rfl <| .cons ⟨0, [1], rfl⟩ rfl <|
    .cons (fun _ _ => trivial) rfl <| .cons ⟨0, [1], rfl⟩ rfl <| .cons ⟨1, [], rfl⟩ rfl <| .nil _

/-- Without the `quit()` every task of the batch recognises its thread. -/
theorem recognisesItself_of_batch :
    RecognisesItself (⟨⟨false, 1, [], 1⟩, 1, .runningTask 0 []⟩ : State ℕ ℕ) := by
  have hother : ({} : State ℕ ℕ).MayCall 2 := fun h => absurd h (by decide)
  have hrun : (machine ℕ ℕ).Run {}
      [.queueInLoop 2 0, .call 1, .clearStop, .assertEntry, .test, .swap, .nextTask]
      ⟨⟨false, 1, [], 1⟩, 1, .runningTask 0 []⟩ :=
    .cons hother rfl <| .cons rfl rfl <| .cons rfl rfl <| .cons rfl rfl <| .cons rfl rfl <|
      .cons rfl rfl <| .cons ⟨0, [], rfl⟩ rfl <| .nil _
  exact (recognisesItself_iff hrun trivial).mpr rfl

/-- A `quit()` from inside the loop makes the rest of the iteration look like another thread. -/
theorem not_recognisesItself :
    ¬∀ (as : List (Action ℕ ℕ)) (s : State ℕ ℕ), (machine ℕ ℕ).Run {} as s → s.Executing →
      RecognisesItself s := by
  intro h
  have hself := (h _ _ quitInBatch_run trivial).1
  exact absurd hself (by decide)

end Looping
end Miniduo
