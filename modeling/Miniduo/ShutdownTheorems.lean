import Miniduo.StreamTheorems

/-!
# The half-close

`shutdownInLoop` on a connection that is still writing leaves the half-close to `handleWrite`,
which calls `shutdownInLoop` again when `output_` is empty; by then the state is `kDisconnecting`
and the call does nothing. So `socket::shutdownWrite` is called once where the connection was idle,
and never where it was writing (`graceful_iff`).
-/

namespace Miniduo

/-- The half-close of a connection: never with bytes left to write, and done exactly once where
there is nothing left to do. -/
structure Graceful (conn : TcpConnection) : Prop where
  drained : ∀ n ∈ conn.log.shutdownWrites, n = 0
  once : conn.state_ = .kDisconnecting → conn.output_.readableBytes = 0 →
    conn.connChannel_.isWriting = false → conn.log.shutdownWrites.length = 1

/-! ## Before and after the half-close is asked for -/

/-- The connection has not left `kConnected`. -/
structure Open (conn : TcpConnection) : Prop where
  state : conn.state_ = .kConnecting ∨ conn.state_ = .kConnected
  writes : conn.log.shutdownWrites = []

/-- The connection has left `kConnected`, with a number of calls of `socket::shutdownWrite`. -/
structure Shut (conn : TcpConnection) (k : ℕ) : Prop where
  state : conn.state_ = .kDisconnecting ∨ conn.state_ = .kDisconnected
  writes : conn.log.shutdownWrites.length = k

section
variable {conn conn' : TcpConnection} {e : ConnEvent} {k : ℕ}

/-- Nothing calls `socket::shutdownWrite` any more. -/
lemma Shut.step (h : Shut conn k) (hstep : ConnStep conn e conn') : Shut conn' k := by
  have hstate := h.state
  cases hstep with
  | accept t hconnected happend =>
    rw [hconnected] at hstate
    simp at hstate
  | shutdownNow hconnected hidle =>
    rw [hconnected] at hstate
    simp at hstate
  | shutdownLater hconnected hwriting =>
    rw [hconnected] at hstate
    simp at hstate
  | establish i hconnecting =>
    rw [hconnecting] at hstate
    simp at hstate
  | close i hup => exact ⟨Or.inr rfl, h.writes⟩
  | _ => exact ⟨h.state, h.writes⟩

lemma Shut.steps {P : TcpConnection → ConnEvent → Prop} (h : Shut conn k)
    (hsteps : ConnSteps P conn conn') : Shut conn' k :=
  hsteps.invariant (Q := fun conn => Shut conn k) h fun _ _ _ hshut _ hstep => hshut.step hstep

/-- The first event that leaves `kConnected` closes the connection, or asks for the half-close and
does it at once iff nothing is being written. -/
lemma Open.step (h : Open conn) (hstep : ConnStep conn e conn') :
    Open conn' ∨ conn'.state_ = .kDisconnected ∨
      (e = .shutdown ∧ conn.state_ = .kConnected ∧
        Shut conn' (if conn.connChannel_.isWriting then 0 else 1)) := by
  cases hstep with
  | shutdownNow hstate hidle =>
    right; right
    refine ⟨rfl, hstate, Or.inl rfl, ?_⟩
    simp [h.writes, hidle]
  | shutdownLater hstate hwriting =>
    right; right
    refine ⟨rfl, hstate, Or.inl rfl, ?_⟩
    simp [h.writes, hwriting]
  | establish i hstate => exact Or.inl ⟨Or.inr rfl, h.writes⟩
  | close i hstate => exact Or.inr (Or.inl rfl)
  | _ => exact Or.inl ⟨h.state, h.writes⟩

lemma disconnected_steps {P : TcpConnection → ConnEvent → Prop}
    (h : conn.state_ = .kDisconnected) (hsteps : ConnSteps P conn conn') :
    conn'.state_ = .kDisconnected := by
  refine hsteps.invariant (Q := fun conn => conn.state_ = .kDisconnected) h ?_
  intro conn e conn' hstate _ hstep
  cases hstep with
  | accept t hconnected happend => exact hstate
  | shutdownNow hconnected hidle =>
    rw [hconnected] at hstate
    cases hstate
  | shutdownLater hconnected hwriting =>
    rw [hconnected] at hstate
    cases hstate
  | establish i hconnecting =>
    rw [hconnecting] at hstate
    cases hstate
  | close i hup => rfl
  | _ => exact hstate

/-- With `Flow`, an idle connection has nothing left to write. -/
def Drained (conn : TcpConnection) : Prop := Flow conn ∧ ∀ n ∈ conn.log.shutdownWrites, n = 0

lemma Drained.step (h : Drained conn) (hstep : ConnStep conn e conn')
    (hlength : ∀ t msg, e = .accept t msg → msg.length ≤ maxSize) : Drained conn' := by
  obtain ⟨hflow, hzero⟩ := h
  refine ⟨hflow.step hstep hlength, ?_⟩
  cases hstep with
  | shutdownNow hstate hidle =>
    intro n hn
    rcases List.mem_append.mp hn with hn | hn
    · exact hzero n hn
    · rw [List.mem_singleton.mp hn]
      by_contra hne
      rw [hflow.writing (Or.inl hstate) hne] at hidle
      cases hidle
  | _ => exact hzero

end

namespace TcpServer

/-! ## Runs -/

/-- `shutdownInLoop`, where it finds the connection in `kConnected`, finds nothing being written. -/
def ShutsDownIdle (c : ConnId) (s : TcpServer) : Action → Prop
  | .shutdown t c' => c' = c → (s.loop (s.conn c).loop_).isInLoopThread t.tid = true →
      (s.conn c).state_ = .kConnected → (s.conn c).connChannel_.isWriting = false
  | .task _ (.shutdownInLoop c') => c' = c → (s.conn c).state_ = .kConnected →
      (s.conn c).connChannel_.isWriting = false
  | _ => True

section
variable {s s' : TcpServer} {a : Action} {c : ConnId}

lemma shutsDownIdle_iff : s.RunsShutdownInLoop a c →
    (ShutsDownIdle c s a ↔ ((s.conn c).state_ = .kConnected →
      (s.conn c).connChannel_.isWriting = false)) := by
  intro hruns
  rcases hruns with ⟨t, ha, hin⟩ | ⟨i, ha⟩
  · rw [ha, ShutsDownIdle]
    exact ⟨fun h => h rfl hin, fun h _ _ => h⟩
  · rw [ha, ShutsDownIdle]
    exact ⟨fun h => h rfl, fun h _ => h⟩

lemma shutsDownIdle_of_not (h : ¬(s.RunsShutdownInLoop a c ∧ (s.conn c).state_ = .kConnected)) :
    ShutsDownIdle c s a := by
  unfold ShutsDownIdle
  split
  · rename_i t c'
    intro hc hin hstate
    exact absurd ⟨Or.inl ⟨t, by rw [hc], hin⟩, hstate⟩ h
  · rename_i i c'
    intro hc hstate
    exact absurd ⟨Or.inr ⟨i, by rw [hc]⟩, hstate⟩ h
  · trivial

/-- `shutdownInLoop` always takes a connection out of `kConnected`. -/
lemma Outcome.shutdown_moves (h : s.Outcome a s') (hruns : s.RunsShutdownInLoop a c)
    (hstate : (s.conn c).state_ = .kConnected) : (s'.conn c).state_ = .kDisconnecting := by
  have heffect : ∀ {s s' : TcpServer}, s.Effect c .shutdown s' →
      (s'.conn c).state_ = .kDisconnecting := by
    intro s s' heffect
    have hstep := heffect.step
    generalize s'.conn c = conn at hstep
    cases hstep <;> rfl
  rcases hruns with ⟨t, ha, hin⟩ | ⟨i, ha⟩
  · rw [ha] at h
    cases h with
    | work hnext hworked => cases hworked with
      | nothing ha _ _ => cases ha
    | call hholds hcalled => cases hcalled with
      | shutdownQueued hout =>
        rw [hin] at hout
        cases hout
      | shutdownIgnored hne => exact absurd hstate hne
      | shutdownRun _ hshutdown => exact heffect hshutdown
  · rw [ha] at h
    cases h with
    | work hnext hworked => cases hworked with
      | nothing ha _ hidle =>
        cases ha
        exact absurd hstate (hidle c rfl)
      | shutdown hshutdown => exact heffect hshutdown
    | call hholds hcalled => cases hcalled

/-- A thread has a pointer to every connection whose `shutdownInLoop` it runs. -/
lemma Placed.created_of_shutdown (h : s.Placed) (hallowed : s.allowed a)
    (hruns : s.RunsShutdownInLoop a c) : c < s.created := by
  rcases hruns with ⟨t, ha, -⟩ | ⟨i, ha⟩
  · rw [ha] at hallowed
    exact h.holds hallowed
  · rw [ha] at hallowed
    exact (h.workAt hallowed : s.Lives c i).1

/-- What a step makes of an open connection, or of one that it has just made. -/
lemma Outcome.open_step (h : s.Outcome a s') (hopen : c < s.created → Open (s.conn c))
    (hc' : c < s'.created) :
    (Open (s'.conn c) ∧ ShutsDownIdle c s a) ∨ (s'.conn c).state_ = .kDisconnected ∨
      (Shut (s'.conn c) 1 ∧ ShutsDownIdle c s a) ∨ (Shut (s'.conn c) 0 ∧ ¬ShutsDownIdle c s a) := by
  -- of the events of a step only `shutdownInLoop` leaves `Open` with a half-close
  have hresult : ∀ {conn}, Open conn → ConnSteps (s.Causes a c) conn (s'.conn c) →
      Open (s'.conn c) ∨ (s'.conn c).state_ = .kDisconnected ∨
        (s.RunsShutdownInLoop a c ∧ (s.conn c).state_ = .kConnected ∧
          Shut (s'.conn c) (if (s.conn c).connChannel_.isWriting then 0 else 1)) := by
    intro conn hconn hsteps
    refine hsteps.invariant (Q := fun conn' => Open conn' ∨ conn'.state_ = .kDisconnected ∨
      (s.RunsShutdownInLoop a c ∧ (s.conn c).state_ = .kConnected ∧
        Shut conn' (if (s.conn c).connChannel_.isWriting then 0 else 1))) (Or.inl hconn) ?_
    intro conn₁ e conn₂ hQ hcauses hstep
    rcases hQ with hopen₁ | hdown | ⟨hruns, hstate, hshut⟩
    · rcases hopen₁.step hstep with hopen₂ | hdown | ⟨he, hstate, hshut⟩
      · exact Or.inl hopen₂
      · exact Or.inr (Or.inl hdown)
      · rw [he] at hcauses
        rw [hcauses.2] at hstate hshut
        exact Or.inr (Or.inr ⟨hcauses.1, hstate, hshut⟩)
    · exact Or.inr (Or.inl (disconnected_steps hdown (hstep.steps (P := fun _ _ => True) trivial)))
    · exact Or.inr (Or.inr ⟨hruns, hstate, hshut.step hstep⟩)
  have hsteps : ∃ conn, Open conn ∧ ConnSteps (s.Causes a c) conn (s'.conn c) := by
    by_cases hc : c < s.created
    · exact ⟨_, hopen hc, h.conn_steps hc⟩
    · obtain ⟨fd, hnew⟩ := h.new_steps hc hc'
      exact ⟨_, ⟨Or.inl rfl, rfl⟩, hnew⟩
  obtain ⟨conn, hconn, hsteps⟩ := hsteps
  rcases hresult hconn hsteps with hopen' | hdown | ⟨hruns, hstate, hshut⟩
  · refine Or.inl ⟨hopen', shutsDownIdle_of_not ?_⟩
    intro hruns
    -- an open connection is not in `kDisconnecting`
    have hdisconnecting := h.shutdown_moves hruns.1 hruns.2
    have := hopen'.state
    rw [hdisconnecting] at this
    simp at this
  · exact Or.inr (Or.inl hdown)
  · have hidle := shutsDownIdle_iff hruns
    cases hwriting : (s.conn c).connChannel_.isWriting with
    | false =>
      rw [hwriting] at hshut
      exact Or.inr (Or.inr (Or.inl ⟨hshut, hidle.mpr fun _ => hwriting⟩))
    | true =>
      rw [hwriting] at hshut
      refine Or.inr (Or.inr (Or.inr ⟨hshut, fun hs => ?_⟩))
      have := hidle.mp hs hstate
      rw [hwriting] at this
      cases this

variable {as : List Action}

lemma run_conn_steps (h : machine.Run s as s') (hc : c < s.created) :
    ConnSteps (fun _ _ => True) (s.conn c) (s'.conn c) := by
  induction h with
  | nil => exact .refl
  | @cons s s₁ s' a as hallowed hexec _ ih =>
    have houtcome := exec_outcome hallowed hexec
    exact ((houtcome.conn_steps hc).mono fun _ _ _ => trivial).trans
      (ih (lt_of_lt_of_le hc houtcome.created_le))

/-- Once the connection has left `kConnected`, the condition has nothing to ask for. -/
lemma shut_allSteps {k : ℕ} (h : machine.Run s as s') (hc : c < s.created)
    (hshut : Shut (s.conn c) k) : machine.AllSteps (ShutsDownIdle c) s as := by
  refine h.allSteps (P := fun _ _ => True) (I := fun s => c < s.created ∧ Shut (s.conn c) k)
    (.of_forall fun _ _ => trivial) ⟨hc, hshut⟩ ?_ ?_
  · intro s a s' hI _ hallowed hexec
    have houtcome := exec_outcome hallowed hexec
    exact ⟨lt_of_lt_of_le hI.1 houtcome.created_le, hI.2.steps (houtcome.conn_steps hI.1)⟩
  · intro s a hI _ _
    refine shutsDownIdle_of_not fun hruns => ?_
    have := hI.2.state
    rw [hruns.2] at this
    simp at this

/-- In `kDisconnecting`, the half-close has been done iff it was asked for when nothing was being
written. -/
lemma once_iff (h : machine.Run s as s') (hplaced : s.Placed)
    (hopen : c < s.created → Open (s.conn c)) (hc : c < s'.created)
    (hstate : (s'.conn c).state_ = .kDisconnecting) :
    (s'.conn c).log.shutdownWrites.length = 1 ↔ machine.AllSteps (ShutsDownIdle c) s as := by
  induction h with
  | nil s =>
    have := (hopen hc).state
    rw [hstate] at this
    simp at this
  | @cons s s₁ s' a as hallowed hexec hrest ih =>
    have houtcome := exec_outcome hallowed hexec
    have hplaced₁ := hplaced.outcome hallowed houtcome
    rw [Machine.allSteps_cons_iff hexec]
    by_cases hc₁ : c < s₁.created
    · have hsteps := run_conn_steps hrest hc₁
      rcases houtcome.open_step hopen hc₁ with ⟨hopen₁, hidle⟩ | hdown | ⟨hshut, hidle⟩ |
        ⟨hshut, hnot⟩
      · rw [ih hplaced₁ (fun _ => hopen₁) hc hstate]
        exact (and_iff_right hidle).symm
      · rw [disconnected_steps hdown hsteps] at hstate
        cases hstate
      · rw [(hshut.steps hsteps).writes]
        exact iff_of_true rfl ⟨hidle, shut_allSteps hrest hc₁ hshut⟩
      · rw [(hshut.steps hsteps).writes]
        exact iff_of_false (by decide) fun hall => hnot hall.1
    · -- not made yet
      have hidle : ShutsDownIdle c s a := shutsDownIdle_of_not fun hruns =>
        hc₁ (lt_of_lt_of_le (hplaced.created_of_shutdown hallowed hruns.1) houtcome.created_le)
      rw [ih hplaced₁ (fun hlt => absurd hlt hc₁) hc hstate]
      exact (and_iff_right hidle).symm

variable {size_ : ℕ} {name_ : Bytes} {callback : Bool}

lemma drained_of_run (hrun : machine.Run (initial size_ name_ callback) as s) :
    ∀ c < s.created, Drained (s.conn c) := by
  have hplaced := placed_steps (P := fun _ _ => True) hrun (.of_forall fun _ _ => trivial)
  refine conn_invariant hrun hplaced
    (fun s fd => ⟨opened_flow s fd, fun n hn => absurd hn List.not_mem_nil⟩) ?_
  intro s a c conn e conn' hP hdrained hcauses hstep
  refine hdrained.step hstep fun t msg he => ?_
  rw [he] at hcauses
  exact hcauses.1.length_le hP.1 hP.2.1

/-- **The half-close.** It is graceful iff, where the connection stands half-closed with nothing
left to write, `shutdownInLoop` had found it idle. -/
theorem graceful_iff (hrun : machine.Run (initial size_ name_ callback) as s)
    (hc : c < s.created) :
    Graceful (s.conn c) ↔ ((s.conn c).state_ = .kDisconnecting →
      (s.conn c).output_.readableBytes = 0 → (s.conn c).connChannel_.isWriting = false →
      machine.AllSteps (ShutsDownIdle c) (initial size_ name_ callback) as) := by
  have honce := fun hstate => once_iff hrun (placed_initial _ _ _)
    (fun hlt => absurd hlt (Nat.not_lt_zero c)) hc hstate
  constructor
  · intro h hstate hempty hidle
    exact (honce hstate).mp (h.once hstate hempty hidle)
  · intro h
    exact ⟨(drained_of_run hrun c hc).2,
      fun hstate hempty hidle => (honce hstate).mpr (h hstate hempty hidle)⟩

end

/-- Nothing has been sent when the connection callback asks for the half-close. -/
theorem graceful_idle : ∃ s, machine.Run (initial 0 [] false) (acceptOne ++ [.shutdown (.loop 0) 0]) s ∧
    0 < s.created ∧ (s.conn 0).state_ = .kDisconnecting ∧
    (Graceful (s.conn 0) ↔ ((s.conn 0).state_ = .kDisconnecting →
      (s.conn 0).output_.readableBytes = 0 → (s.conn 0).connChannel_.isWriting = false →
      machine.AllSteps (ShutsDownIdle 0) (initial 0 [] false)
        (acceptOne ++ [.shutdown (.loop 0) 0]))) := by
  obtain ⟨s, hrun, hs⟩ := Machine.Run.of_replay_map machine (initial 0 [] false)
    (acceptOne ++ [.shutdown (.loop 0) 0])
    (fun s => decide (0 < s.created ∧ (s.conn 0).state_ = .kDisconnecting)) (by decide +kernel)
  obtain ⟨hcreated, hstate⟩ := of_decide_eq_true hs
  exact ⟨s, hrun, hcreated, hstate, graceful_iff hrun hcreated⟩

/-- The connection callback sends a byte and asks for the half-close; the byte is written. -/
def shutdownBehindSend : List Action :=
  acceptOne ++ [.send (.loop 0) 0 [1], .shutdown (.loop 0) 0] ++ writeOnce 1

/-- `handleWrite` calls `shutdownInLoop` in `kDisconnecting`, and `socket::shutdownWrite` is never
called. -/
theorem not_graceful : ¬∀ (size_ : ℕ) (name_ : Bytes) (callback : Bool) (as : List Action) s,
    machine.Run (initial size_ name_ callback) as s → ∀ c < s.created, Graceful (s.conn c) := by
  intro h
  obtain ⟨s, hrun, hs⟩ := Machine.Run.of_replay_map machine (initial 0 [] false)
    shutdownBehindSend (fun s => decide (0 < s.created ∧
      (s.conn 0).state_ = .kDisconnecting ∧ (s.conn 0).output_.readableBytes = 0 ∧
      (s.conn 0).connChannel_.isWriting = false ∧ (s.conn 0).log.shutdownWrites.length = 0))
    (by decide +kernel)
  obtain ⟨hcreated, hstate, hempty, hidle, hnone⟩ := of_decide_eq_true hs
  have honce := (h 0 [] false shutdownBehindSend s hrun 0 hcreated).once hstate hempty hidle
  rw [hnone] at honce
  cases honce

end TcpServer
end Miniduo
