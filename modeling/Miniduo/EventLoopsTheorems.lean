import Miniduo.EventLoops

/-!
# When `EventLoops::quit` is lost

Each loop clears its own stop flag when its thread gets that far, so a flag that `quit` sets before
is overwritten. Behind that point the loop never clears its flag again.
-/

namespace Miniduo
namespace EventLoops

variable {τ κ : Type}

/-- The loop's thread has executed `stoplooping_ = false`. -/
def HasCleared (s : EventLoops τ κ) (i : ℕ) : Prop :=
  s.called i = true ∧ (s.loops i).phase ≠ .entered

/-- When `quit` sets the flag of a loop, that loop has cleared it. -/
def QuitsCleared (s : EventLoops τ κ) : Action τ κ → Prop
  | .quit _ => s.HasCleared s.quits
  | _ => True

/-- No loop is inside its `while` loop, or on the way there, with its stop flag cleared. -/
def AllTold (s : EventLoops τ κ) : Prop :=
  ∀ i ≤ s.size_, (s.loops i).phase ≠ .idle → (s.loops i).loop.stoplooping_ = true

instance [DecidableEq τ] [DecidableEq κ] (s : EventLoops τ κ) : ∀ a, Decidable (s.QuitsCleared a)
  | .quit _ => inferInstanceAs (Decidable (_ ∧ _ ≠ _))
  | .start | .step .. | .join => isTrue trivial

/-- The loops told to stop have cleared their flag before, and it is set. -/
def ToldInv (s : EventLoops τ κ) : Prop :=
  ∀ i < s.quits, s.HasCleared i ∧ (s.loops i).loop.stoplooping_ = true

/-- The steps of a loop behind the clearing of its flag keep the flag, unless they set it. -/
lemma looping_keeps {s s' : Looping.State τ κ} {a : Looping.Action τ κ}
    (hallowed : Looping.allowed s a) (hexec : Looping.exec s a = .ok s')
    (hcall : ∀ thread, a ≠ .call thread) (hentered : s.phase ≠ .entered)
    (hstop : s.loop.stoplooping_ = true) :
    s'.phase ≠ .entered ∧ s'.loop.stoplooping_ = true := by
  cases a with
  | call thread => exact absurd rfl (hcall thread)
  | clearStop => exact absurd hallowed hentered
  | assertEntry | assertInLoop =>
    obtain ⟨_, _, hexec⟩ := except_bind_eq_ok.mp hexec
    obtain rfl := Except.ok.inj hexec
    simp [hstop, hentered]
  | test =>
    -- the loop is left here
    simp only [Looping.exec, hstop, if_true, Except.ok.injEq] at hexec
    subst hexec
    exact ⟨nofun, hstop⟩
  | swap | poll _ | again =>
    obtain rfl := Except.ok.inj hexec
    exact ⟨nofun, hstop⟩
  | nextTask | endTask | nextChannel | endHandler =>
    obtain ⟨_, _, hphase⟩ := hallowed
    simp only [Looping.exec, hphase, Except.ok.injEq] at hexec
    subst hexec
    exact ⟨nofun, hstop⟩
  | quit currentTid =>
    obtain rfl := Except.ok.inj hexec
    exact ⟨hentered, EventLoop.quit_stoplooping _ _⟩
  | queueInLoop currentTid cb =>
    obtain rfl := Except.ok.inj hexec
    exact ⟨hentered, hstop⟩

/-- A step of one loop that is not the call of `loop()` changes nothing but that loop. -/
lemma exec_step {s s' : EventLoops τ κ} {i : ℕ} {a : Looping.Action τ κ}
    (hexec : exec s (.step i a) = .ok s') (hcall : ∀ thread, a ≠ .call thread) :
    ∃ loop, Looping.exec (s.loops i) a = .ok loop ∧ s' = s.setLoop i loop := by
  obtain ⟨loop, hloop, hexec⟩ := except_bind_eq_ok.mp hexec
  refine ⟨loop, hloop, ?_⟩
  cases a with
  | call thread => exact absurd rfl (hcall thread)
  | _ => exact (Except.ok.inj hexec).symm

lemma exec_call {s s' : EventLoops τ κ} {i : ℕ} {thread : ℤ}
    (hexec : exec s (.step i (.call thread)) = .ok s') :
    ∃ loop, s' = { s.setLoop i loop with called := Function.update s.called i true } := by
  obtain ⟨loop, _, hexec⟩ := except_bind_eq_ok.mp hexec
  exact ⟨loop, (Except.ok.inj hexec).symm⟩

lemma toldInv_step {s s' : EventLoops τ κ} {a : Action τ κ} (h : s.ToldInv)
    (hquits : s.QuitsCleared a) (hallowed : allowed s a) (hexec : exec s a = .ok s') :
    s'.ToldInv := by
  cases a with
  | start | join =>
    obtain rfl := Except.ok.inj hexec
    exact h
  | step i a =>
    obtain ⟨_, hmay, hallowed⟩ := hallowed
    by_cases hcall : ∃ thread, a = .call thread
    · -- a loop that is told has been called before
      obtain ⟨thread, rfl⟩ := hcall
      obtain ⟨loop, rfl⟩ := exec_call hexec
      intro j hj
      obtain ⟨⟨hcalled, hentered⟩, hstop⟩ := h j hj
      have hne : j ≠ i := by
        rintro rfl
        rw [hmay.1] at hcalled
        cases hcalled
      simp only [HasCleared, setLoop, Function.update_of_ne hne]
      exact ⟨⟨hcalled, hentered⟩, hstop⟩
    · simp only [not_exists] at hcall
      obtain ⟨loop, hloop, rfl⟩ := exec_step hexec hcall
      intro j hj
      obtain ⟨⟨hcalled, hentered⟩, hstop⟩ := h j hj
      by_cases hji : j = i
      · subst hji
        have hkeeps := looping_keeps hallowed hloop hcall hentered hstop
        simp only [HasCleared, setLoop, Function.update_self]
        exact ⟨⟨hcalled, hkeeps.1⟩, hkeeps.2⟩
      · simp only [HasCleared, setLoop, Function.update_of_ne hji]
        exact ⟨⟨hcalled, hentered⟩, hstop⟩
  | quit currentTid =>
    obtain ⟨loop, hloop, hexec⟩ := except_bind_eq_ok.mp hexec
    obtain rfl := Except.ok.inj hexec
    obtain rfl := Except.ok.inj hloop
    intro j hj
    have hj : j < s.quits + 1 := hj
    by_cases hnew : j = s.quits
    · -- the loop told now has cleared its flag
      subst hnew
      simp only [HasCleared, setLoop, Function.update_self, EventLoop.quit_stoplooping]
      exact ⟨hquits, trivial⟩
    · simp only [HasCleared, setLoop, Function.update_of_ne hnew]
      exact h j (by omega)

/-- **`quit` is not lost** when it finds every loop behind the clearing of its stop flag: in every
state after its return each loop that has not left `loop()` has its flag set. -/
theorem allTold_of_quitsCleared {size_ : ℕ} {as : List (Action τ κ)} {s : EventLoops τ κ}
    (hrun : (machine τ κ).Run { size_ := size_ } as s)
    (hquits : (machine τ κ).AllSteps QuitsCleared { size_ := size_ } as) :
    s.QuitReturned → s.AllTold := by
  have hinv : s.ToldInv := hrun.invariant hquits (fun i hi => absurd hi (Nat.not_lt_zero i))
    fun s a s' h hP hallowed hexec => toldInv_step h hP hallowed hexec
  intro hreturned i hi _
  have hreturned : s.size_ < s.quits := hreturned
  exact (hinv i (by omega)).2

/-- One sub-loop, and `quit` from another thread behind the start of both loops. -/
def quitLate : List (Action ℕ ℕ) :=
  [.start, .step 0 (.call 1), .step 0 .clearStop, .step 1 (.call 2), .step 1 .clearStop,
    .step 0 .assertEntry, .step 0 .test, .step 1 .assertEntry, .quit 3, .quit 3]

theorem allTold_quitLate :
    ∃ s, (machine ℕ ℕ).Run { size_ := 1 } quitLate s ∧ s.QuitReturned ∧ s.AllTold := by
  obtain ⟨s, hrun, hreturned⟩ := Machine.Run.of_replay_map (machine ℕ ℕ) { size_ := 1 } quitLate
    (fun s => decide (s.size_ < s.quits)) (by decide +kernel)
  have hreturned : s.size_ < s.quits := of_decide_eq_true hreturned
  exact ⟨s, hrun, hreturned, allTold_of_quitsCleared hrun (by decide +kernel) hreturned⟩

/-- The same `quit` while the thread of the sub-loop has not been scheduled. -/
def quitEarly : List (Action ℕ ℕ) :=
  [.start, .step 1 (.call 2), .step 1 .clearStop, .step 1 .assertEntry, .step 1 .test,
    .quit 3, .quit 3, .step 0 (.call 1), .step 0 .clearStop, .step 0 .assertEntry, .step 0 .test]

/-- The sub-loop clears the flag that `quit` has set, and stays in its `while` loop. -/
theorem not_allTold :
    ¬∀ (size_ : ℕ) (as : List (Action ℕ ℕ)) (s : EventLoops ℕ ℕ),
      (machine ℕ ℕ).Run { size_ := size_ } as s → s.QuitReturned → s.AllTold := by
  intro h
  obtain ⟨s, hrun, hlost⟩ := Machine.Run.of_replay_map (machine ℕ ℕ) { size_ := 1 } quitEarly
    (fun s => decide (s.size_ < s.quits ∧ 0 ≤ s.size_ ∧ (s.loops 0).phase ≠ .idle ∧
      (s.loops 0).loop.stoplooping_ = false)) (by decide +kernel)
  obtain ⟨hreturned, hle, hphase, hstop⟩ := of_decide_eq_true hlost
  have htold := h 1 quitEarly s hrun hreturned 0 hle hphase
  rw [hstop] at htold
  cases htold

end EventLoops
end Miniduo
