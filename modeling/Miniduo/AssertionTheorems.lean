import Miniduo.LifecycleTheorems
import Miniduo.TimelyTheorems

/-!
# Servers on which no assertion fails

The server part of a run of `Serving` is a run of the server in which raw tasks run on live
connections (`server_run`). What holds of these runs needs no assumption about the program then: no
assertion of the server fails, and a step ends in a fault only where a callback or a `Buffer` does
(`safe_of_run`).
-/

namespace Miniduo

/-- A sequence of calls faults iff one of them does. -/
lemma except_bind_eq_error {ε α β : Type} {x : Except ε α} {f : α → Except ε β} {e : ε} :
    (x >>= f) = .error e ↔ x = .error e ∨ ∃ a, x = .ok a ∧ f a = .error e := by
  cases x <;> simp

/-- The callbacks of the program fail no assertion. -/
structure Callbacks.Calm {χ ρ ω : Type} (callbacks : Callbacks χ ρ ω) : Prop where
  msg : ∀ reply input context, Safe (callbacks.msgCallback_ reply input context)
  writeComplete : ∀ callback ∈ callbacks.writeCompleteCallback_, ∀ reply context,
    Safe (callback reply context)

namespace Serving

variable {χ ρ ω : Type} {callbacks : Callbacks χ ρ ω} {s s' : Serving χ} {a : Action ρ ω}
  {as : List (Action ρ ω)} {size_ : ℕ} {name_ : Bytes}

/-- The server part of a run is a run of the server in which raw tasks run on live connections. -/
lemma server_run (hrun : (machine callbacks).Run s as s') (h : s.Sheltered callbacks)
    (hfew : (machine callbacks).AllSteps Few s as) :
    TcpServer.machine.Run s.tcp (as.filterMap Action.server) s'.tcp ∧
      TcpServer.machine.AllSteps TcpServer.InScope s.tcp (as.filterMap Action.server) := by
  induction hrun with
  | nil => exact ⟨.nil _, trivial⟩
  | @cons s s₁ _ a as hallowed hexec _ ih =>
    obtain ⟨hnext, hrest⟩ := hfew
    obtain ⟨hrun', hsteps⟩ := ih (h.step hnext hallowed hexec) (hrest s₁ hexec)
    have htakes := exec_takes hexec
    cases hserver : a.server with
    | none =>
      -- the server waits while `sendfile` puts bytes on the socket
      rw [hserver] at htakes
      have htcp : s₁.tcp = s.tcp := htakes
      rw [List.filterMap_cons_none hserver, ← htcp]
      exact ⟨hrun', hsteps⟩
    | some b =>
      rw [hserver] at htakes
      have hstep : TcpServer.machine.exec s.tcp b = .ok s₁.tcp := htakes
      rw [List.filterMap_cons_some hserver, Machine.allSteps_cons_iff hstep]
      exact ⟨.cons (server_allowed hallowed hserver) hstep hrun',
        ⟨hnext.server hserver, h.runsOnLive hallowed hserver⟩, hsteps⟩

/-- A step of the server part ends in no assertion. -/
lemma server_safe {bs : List TcpServer.Action} {b : TcpServer.Action}
    (hrun : TcpServer.machine.Run
      (TcpServer.initial size_ name_ callbacks.writeCompleteCallback_.isSome) bs s.tcp)
    (hgood : s.Good callbacks) (hallowed : (machine callbacks).allowed s a) (hfew : s.Few a)
    (hb : a.server = some b) : Safe (s.tcp.exec b) := by
  obtain ⟨hnames, hsound, -⟩ := hgood.attended
  obtain ⟨stage, hlifecycle⟩ := hsound.lifecycle
  have hfree := (hfew.server hb).recycled.findsFree hnames.1 hnames.2
  exact TcpServer.exec_safe hsound.placed (TcpServer.buffered_of_run hrun) hlifecycle hfree
    (server_allowed hallowed hb)

lemma safe_step {b : TcpServer.Action} (h : Safe (s.tcp.exec b)) : Safe (s.step b) :=
  h.bind fun _ _ => safe_ok _

/-- A step that ends in a fault does so in a `Buffer` or in its callback. -/
lemma exec_fault {f : Fault} (hserver : ∀ b, a.server = some b → Safe (s.tcp.exec b))
    (h : (machine callbacks).exec s a = .error f) :
    (f = .outOfBounds ∨ f = .lengthError) ∨
      (∃ i c data reply input, a = .msgCallback i c data reply ∧
        callbacks.msgCallback_ reply input (s.context c) = .error f) ∨
      ∃ i c reply, a = .writeCompleteCallback i c reply ∧
        ∃ callback ∈ callbacks.writeCompleteCallback_, callback reply (s.context c) = .error f := by
  cases a with
  | tcp b => exact Or.inl (safe_step (hserver b rfl) f h)
  | msgCallback i c data reply =>
    rcases except_bind_eq_error.mp h with hstep | ⟨s₁, hstep, h⟩
    · exact Or.inl (safe_step (hserver _ rfl) f hstep)
    · obtain ⟨tcp, -, rfl⟩ := step_ok hstep
      rcases except_bind_eq_error.mp h with hcallback | ⟨_, -, h⟩
      · exact Or.inr (Or.inl ⟨i, c, data, reply, _, rfl, hcallback⟩)
      · cases h
  | writeCompleteCallback i c reply =>
    rcases except_bind_eq_error.mp h with hstep | ⟨s₁, hstep, h⟩
    · exact Or.inl (safe_step (hserver _ rfl) f hstep)
    · obtain ⟨tcp, -, rfl⟩ := step_ok hstep
      cases hsome : callbacks.writeCompleteCallback_ with
      | none =>
        simp only [hsome] at h
        cases h
      | some callback =>
        simp only [hsome] at h
        rcases except_bind_eq_error.mp h with hcallback | ⟨_, -, h⟩
        · exact Or.inr (Or.inr ⟨i, c, reply, rfl, callback, rfl, hcallback⟩)
        · cases h
  | call i c x =>
    have hcall : ∀ b, Safe (s.tcp.exec b) →
        Safe ({ s with script := Function.update s.script i (s.script i).tail }.step b) :=
      fun b hsafe => safe_step hsafe
    cases x with
    | sendfile bytes => cases h
    | retrieve len => exact Or.inl (hcall _ (hserver _ rfl) f h)
    | send msg => exact Or.inl (hcall _ (hserver _ rfl) f h)
    | close => exact Or.inl (hcall _ (hserver _ rfl) f h)

lemma safe_exec (hserver : ∀ b, a.server = some b → Safe (s.tcp.exec b)) (hcalm : callbacks.Calm) :
    Safe ((machine callbacks).exec s a) := by
  intro f h
  rcases exec_fault hserver h with hbuffer | ⟨i, c, data, reply, input, rfl, hmsg⟩ |
    ⟨i, c, reply, rfl, callback, hsome, hwrite⟩
  · exact hbuffer
  · exact hcalm.msg _ _ _ f hmsg
  · exact hcalm.writeComplete callback hsome _ _ f hwrite

/-- **No assertion fails** where callbacks only read, send and close, but for those of the callbacks
themselves: the server part of a run is a run of the server on which raw tasks run on live
connections, and the next step ends in no assertion. As in every run of the machine, no loop is asked
to quit and the server is not destroyed; the assertions on what system calls are given and return are
not in the model. -/
theorem safe_of_run (hrun : (machine callbacks).Run (initial callbacks size_ name_) as s)
    (hfew : (machine callbacks).AllSteps Few (initial callbacks size_ name_) as)
    (hallowed : (machine callbacks).allowed s a) (hnext : s.Few a) :
    (TcpServer.machine.Run (initial callbacks size_ name_).tcp (as.filterMap Action.server) s.tcp ∧
      TcpServer.machine.AllSteps TcpServer.InScope (initial callbacks size_ name_).tcp
        (as.filterMap Action.server)) ∧
      (∀ b ∈ a.server, Safe (s.tcp.exec b)) ∧
        (callbacks.Calm → Safe ((machine callbacks).exec s a)) := by
  have hruns := server_run hrun (sheltered_initial callbacks size_ name_) hfew
  have hserver : ∀ b, a.server = some b → Safe (s.tcp.exec b) := fun b hb =>
    server_safe hruns.1 (good_of_run hrun hfew) hallowed hnext hb
  exact ⟨hruns, hserver, safe_exec hserver⟩

lemma calm_oneByte : oneByte.Calm where
  msg _ _ _ := safe_ok _
  writeComplete callback hcallback reply context := by
    cases hcallback
    exact safe_ok _

theorem safe_closesTwice : ∃ s, (machine oneByte).Run (initial oneByte 0 []) closesTwice.dropLast s ∧
    Safe ((machine oneByte).exec s (.tcp (.task 0 (.connectDestroyed 0)))) := by
  obtain ⟨s, hrun, hs⟩ := Machine.Run.of_replay_map (machine oneByte) (initial oneByte 0 [])
    closesTwice.dropLast
    (fun s => decide ((machine oneByte).allowed s (.tcp (.task 0 (.connectDestroyed 0)))))
    (by decide +kernel)
  obtain ⟨-, -, hsafe⟩ := safe_of_run hrun (by decide +kernel) (of_decide_eq_true hs) trivial
  exact ⟨s, hrun, hsafe calm_oneByte⟩

end Serving
end Miniduo
