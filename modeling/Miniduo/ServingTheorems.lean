import Miniduo.FaceTheorems
import Miniduo.Lib.Simulation

/-!
# The server with the callbacks of a program

The server part of `Serving` is a server of `TcpServer.lean` in which callbacks only read, send and
close their own connection, so what holds of these holds of it (`Good`).
-/

namespace Miniduo

/-- The bytes that a call puts on the socket at once. -/
def Call.direct : Call → Bytes
  | .sendfile bytes => bytes
  | .retrieve _ | .send _ | .close => []

namespace Serving

variable {χ ρ ω : Type} {callbacks : Callbacks χ ρ ω} {s s' : Serving χ} {i : ℕ} {c : ConnId}

/-! ## The server part -/

/-- A step that returns is a step of the server part. -/
lemma step_ok {a : TcpServer.Action} (h : s.step a = .ok s') :
    ∃ tcp, s.tcp.exec a = .ok tcp ∧ s' = { s with tcp := tcp, socket := s.afterWrite tcp a } := by
  obtain ⟨tcp, hexec, h⟩ := except_bind_eq_ok.mp h
  exact ⟨tcp, hexec, (Except.ok.inj h).symm⟩

/-- The step of the server that an action is, if it is one. -/
def Action.server : Action ρ ω → Option TcpServer.Action
  | .tcp a => some a
  | .msgCallback i c data _ => some (.handleRead i c (some data))
  | .writeCompleteCallback i c _ => some (.task i (.writeCompleteCallback c))
  | .call i c x => x.action i c

/-- The server part takes the step, if there is one. -/
def Takes (s s' : Serving χ) : Option TcpServer.Action → Prop
  | some a => s.tcp.exec a = .ok s'.tcp
  | none => s'.tcp = s.tcp

lemma step_takes {a : TcpServer.Action} (h : s.step a = .ok s') : s.Takes s' (some a) := by
  obtain ⟨tcp, hexec, rfl⟩ := step_ok h
  exact hexec

/-- What a call of `msgCallback_` that returns has done: the connection is read from, its context is
new, and the calls are left to make. -/
lemma msgCallback_ok {data : Bytes} {reply : ρ}
    (h : (machine callbacks).exec s (.msgCallback i c data reply) = .ok s') :
    ∃ tcp context calls, s.tcp.exec (.handleRead i c (some data)) = .ok tcp ∧
      callbacks.msgCallback_ reply (tcp.conn c).input_.readable (s.context c) =
        .ok (context, calls) ∧
      s' = { s with
        tcp := tcp
        received := Function.update s.received c (s.received c ++ data) }.enter i c context calls := by
  obtain ⟨s₁, hstep, h⟩ := except_bind_eq_ok.mp h
  obtain ⟨tcp, hexec, rfl⟩ := step_ok hstep
  obtain ⟨⟨context, calls⟩, hcallback, h⟩ := except_bind_eq_ok.mp h
  exact ⟨tcp, context, calls, hexec, hcallback, (Except.ok.inj h).symm⟩

/-- What a call of `writeCompleteCallback_` that returns has done, if the program has one. -/
lemma writeCompleteCallback_ok {reply : ω}
    (h : (machine callbacks).exec s (.writeCompleteCallback i c reply) = .ok s') :
    ∃ tcp, s.tcp.exec (.task i (.writeCompleteCallback c)) = .ok tcp ∧
      ((∃ callback context calls, callbacks.writeCompleteCallback_ = some callback ∧
        callback reply (s.context c) = .ok (context, calls) ∧
          s' = { s with tcp := tcp }.enter i c context calls) ∨
        (callbacks.writeCompleteCallback_ = none ∧ s' = { s with tcp := tcp })) := by
  obtain ⟨s₁, hstep, h⟩ := except_bind_eq_ok.mp h
  obtain ⟨tcp, hexec, rfl⟩ := step_ok hstep
  refine ⟨tcp, hexec, ?_⟩
  split at h
  · rename_i callback hsome
    obtain ⟨⟨context, calls⟩, hcallback, h⟩ := except_bind_eq_ok.mp h
    exact Or.inl ⟨callback, context, calls, hsome, hcallback, (Except.ok.inj h).symm⟩
  · rename_i hnone
    exact Or.inr ⟨hnone, (Except.ok.inj h).symm⟩

/-- A call takes itself off the script, and `sendfile` puts its bytes on the socket. -/
lemma call_ok {x : Call} (h : (machine callbacks).exec s (.call i c x) = .ok s') :
    ∃ tcp, s' = { s with
      tcp := tcp
      script := Function.update s.script i (s.script i).tail
      socket := Function.update s.socket c (s.socket c ++ x.direct) } := by
  have hsame : Function.update s.socket c (s.socket c ++ []) = s.socket := by
    rw [List.append_nil, Function.update_eq_self]
  cases x with
  | sendfile bytes => exact ⟨s.tcp, (Except.ok.inj h).symm⟩
  | retrieve len =>
    obtain ⟨tcp, -, rfl⟩ := step_ok h
    refine ⟨tcp, ?_⟩
    simp only [Call.direct, hsame]
    rfl
  | send msg =>
    obtain ⟨tcp, -, rfl⟩ := step_ok h
    refine ⟨tcp, ?_⟩
    simp only [Call.direct, hsame]
    rfl
  | close =>
    obtain ⟨tcp, -, rfl⟩ := step_ok h
    refine ⟨tcp, ?_⟩
    simp only [Call.direct, hsame]
    rfl

/-- A call takes the server part through the call's own step, if it has one. -/
lemma call_takes {call : Call} (h : s.call i c call = .ok s') : s.Takes s' (call.action i c) := by
  cases call with
  | sendfile bytes =>
    rw [← Except.ok.inj h]
    rfl
  | retrieve len => exact step_takes h
  | send msg => exact step_takes h
  | close => exact step_takes h

/-- Every action takes the server part through its step, if it has one. -/
lemma exec_takes {a : Action ρ ω} (h : (machine callbacks).exec s a = .ok s') :
    s.Takes s' a.server := by
  cases a with
  | tcp a => exact step_takes h
  | msgCallback i c data reply =>
    obtain ⟨tcp, context, calls, hexec, -, rfl⟩ := msgCallback_ok h
    exact hexec
  | writeCompleteCallback i c reply =>
    obtain ⟨tcp, hexec, ⟨callback, context, calls, -, -, rfl⟩ | ⟨-, rfl⟩⟩ :=
      writeCompleteCallback_ok h
    · exact hexec
    · exact hexec
  | call i c call => exact (call_takes (s := { s with
      script := Function.update s.script i (s.script i).tail }) h :)

section
variable {a : Action ρ ω} {b : TcpServer.Action}

/-- What the program may do the server may do. -/
lemma server_allowed (h : (machine callbacks).allowed s a) (hb : a.server = some b) :
    s.tcp.allowed b := by
  cases a with
  | call i c call => exact h.2 b hb
  | _ =>
    cases hb
    exact h.1

/-- The server part accepts as few connections. -/
lemma Few.server (h : s.Few a) (hb : a.server = some b) : s.tcp.Few b := by
  cases a with
  | tcp a =>
    cases hb
    exact h
  | msgCallback i c data reply =>
    cases hb
    trivial
  | writeCompleteCallback i c reply =>
    cases hb
    trivial
  | call i c call =>
    cases call <;> cases hb <;> trivial

/-- Only callbacks have pointers, and they make their calls in their own loop. -/
lemma server_tame (h : (machine callbacks).allowed s a) (hb : a.server = some b) : b.Tame := by
  cases a with
  | tcp a =>
    cases hb
    have hplain := h.2
    cases b <;> trivial
  | msgCallback i c data reply =>
    cases hb
    trivial
  | writeCompleteCallback i c reply =>
    cases hb
    trivial
  | call i c call =>
    cases call <;> cases hb
    · trivial
    · exact ⟨i, rfl⟩
    · exact ⟨i, rfl⟩

end

/-! ## What every step keeps -/

/-- What a reachable state of the server is like. -/
structure Good (callbacks : Callbacks χ ρ ω) (s : Serving χ) : Prop where
  attended : s.tcp.Attended
  tame : s.tcp.Tame
  completes : s.tcp.writeCompleteCallback_ = callbacks.writeCompleteCallback_.isSome
  /-- Calls are left to a thread that is in a callback of a connection. -/
  scripts : ∀ i, s.script i ≠ [] → ∃ c, (s.tcp.thread i).user = some (some c)
  untouched : ∀ c, ¬s.tcp.Up c →
    s.context c = callbacks.context ∧ s.socket c = [] ∧ s.received c = []

/-- The step of the server part, if there is one. -/
lemma server_outcome {a : Action ρ ω} {b : TcpServer.Action}
    (hallowed : (machine callbacks).allowed s a) (hexec : (machine callbacks).exec s a = .ok s')
    (hb : a.server = some b) : s.tcp.Outcome b s'.tcp := by
  have htakes := exec_takes hexec
  rw [hb] at htakes
  exact TcpServer.exec_outcome (server_allowed hallowed hb) htakes

section
variable {a : Action ρ ω}

/-- Established connections stay established. -/
lemma up_kept (hallowed : (machine callbacks).allowed s a)
    (hexec : (machine callbacks).exec s a = .ok s') (hup : s.tcp.Up c) : s'.tcp.Up c := by
  cases hserver : a.server with
  | none =>
    have htakes := exec_takes hexec
    rw [hserver] at htakes
    exact htakes ▸ hup
  | some b => exact hup.outcome (server_outcome hallowed hexec hserver)

variable (h : s.Good callbacks) (hallowed : (machine callbacks).allowed s a)
  (hexec : (machine callbacks).exec s a = .ok s')
include h hallowed hexec

/-- A thread has calls to make while it is in the callback that has left them. -/
lemma Good.scripts_step : ∀ j, s'.script j ≠ [] → ∃ c, (s'.tcp.thread j).user = some (some c) := by
  intro j hscript
  -- a thread that had calls to make before
  have hold : ∀ {b}, a.server = some b → b ≠ .userReturns j → s.script j ≠ [] →
      ∃ c, (s'.tcp.thread j).user = some (some c) := by
    intro b hb hreturns hne
    obtain ⟨c, huser⟩ := h.scripts j hne
    exact ⟨c, (server_outcome hallowed hexec hb).user_kept hreturns huser⟩
  cases a with
  | tcp b =>
    obtain ⟨tcp, -, rfl⟩ := step_ok hexec
    refine hold rfl (fun hreturns => ?_) hscript
    subst hreturns
    exact hscript hallowed.2
  | msgCallback i c data reply =>
    by_cases hj : j = i
    · subst hj
      obtain ⟨tcp, context, calls, hread, -, rfl⟩ := msgCallback_ok hexec
      have hread : (s.tcp.pop j).handleRead j c (some data) = .ok tcp := hread
      exact ⟨c, TcpServer.handleRead_user hallowed.2.1 hread⟩
    · refine hold rfl nofun ?_
      obtain ⟨tcp, context, calls, -, -, rfl⟩ := msgCallback_ok hexec
      exact fun hnil => hscript ((Function.update_of_ne hj ..).trans hnil)
  | writeCompleteCallback i c reply =>
    by_cases hj : j = i
    · subst hj
      refine ⟨c, ?_⟩
      have htask : (s.tcp.pop j).enterUser j (some c) = s'.tcp := Except.ok.inj (exec_takes hexec)
      rw [← htask]
      exact TcpServer.enterUser_user
    · refine hold rfl nofun ?_
      obtain ⟨tcp, -, ⟨callback, context, calls, -, -, rfl⟩ | ⟨-, rfl⟩⟩ :=
        writeCompleteCallback_ok hexec
      · exact fun hnil => hscript ((Function.update_of_ne hj ..).trans hnil)
      · exact hscript
  | call i c x =>
    obtain ⟨tcp, hs'⟩ := call_ok hexec
    -- a call makes no script longer
    have hne : s.script j ≠ [] := by
      intro hnil
      rw [hs'] at hscript
      by_cases hj : j = i
      · subst hj
        simp [hnil] at hscript
      · exact hscript ((Function.update_of_ne hj ..).trans hnil)
    cases x with
    | sendfile bytes =>
      have htcp : s'.tcp = s.tcp := exec_takes hexec
      rw [htcp]
      exact h.scripts j hne
    | retrieve len => exact hold rfl nofun hne
    | send msg => exact hold rfl nofun hne
    | close => exact hold rfl nofun hne

/-- Contexts and sockets change when their connections are established. -/
lemma Good.untouched_step :
    ∀ c, ¬s'.tcp.Up c →
      s'.context c = callbacks.context ∧ s'.socket c = [] ∧ s'.received c = [] := by
  intro c hdown
  -- a connection that is down after the step was so before, and what a step changes is up
  have hbefore : ¬s.tcp.Up c := fun hup => hdown (up_kept hallowed hexec hup)
  have hne : ∀ {c'}, s.tcp.Up c' → c ≠ c' := by
    rintro c' hup rfl
    exact hbefore hup
  have hplaced := h.attended.sound.placed
  obtain ⟨hcontext, hsocket, hreceived⟩ := h.untouched c hbefore
  cases a with
  | tcp b =>
    obtain ⟨tcp, -, rfl⟩ := step_ok hexec
    refine ⟨hcontext, ?_, hreceived⟩
    cases b with
    | handleWrite i c' written =>
      have hup := h.tame.up_write hplaced hallowed.1.1
      exact (Function.update_of_ne (hne hup) ..).trans hsocket
    | _ => exact hsocket
  | msgCallback i c' data reply =>
    obtain ⟨tcp, context, calls, -, -, rfl⟩ := msgCallback_ok hexec
    have hup := h.attended.sound.up_read hplaced hallowed.1.1
    exact ⟨(Function.update_of_ne (hne hup) ..).trans hcontext, hsocket,
      (Function.update_of_ne (hne hup) ..).trans hreceived⟩
  | writeCompleteCallback i c' reply =>
    have hsession : (Task.writeCompleteCallback c').session c' ≠ none := by simp [Task.session]
    have hup := h.tame.up_task hplaced hallowed.1 hsession
    obtain ⟨tcp, -, ⟨callback, context, calls, -, -, rfl⟩ | ⟨-, rfl⟩⟩ :=
      writeCompleteCallback_ok hexec
    · exact ⟨(Function.update_of_ne (hne hup) ..).trans hcontext, hsocket, hreceived⟩
    · exact ⟨hcontext, hsocket, hreceived⟩
  | call i c' x =>
    obtain ⟨tcp, rfl⟩ := call_ok hexec
    have hup := h.tame.up_user hplaced hallowed.1.1
    exact ⟨hcontext, (Function.update_of_ne (hne hup) ..).trans hsocket, hreceived⟩

/-- Every step leads from good states to good states. -/
lemma Good.step (hfew : s.Few a) : s'.Good callbacks := by
  have hparts : s'.tcp.Attended ∧ s'.tcp.Tame ∧
      s'.tcp.writeCompleteCallback_ = s.tcp.writeCompleteCallback_ := by
    have htakes := exec_takes hexec
    cases hserver : a.server with
    | none =>
      rw [hserver] at htakes
      rw [show s'.tcp = s.tcp from htakes]
      exact ⟨h.attended, h.tame, rfl⟩
    | some b =>
      rw [hserver] at htakes
      have hb := server_allowed hallowed hserver
      have htame := server_tame hallowed hserver
      have houtcome := server_outcome hallowed hexec hserver
      exact ⟨h.attended.step (hfew.server hserver) hb htakes, h.tame.step h.attended htame hb houtcome,
        congrArg Prod.snd (houtcome.settings_eq htame)⟩
  exact ⟨hparts.1, hparts.2.1, hparts.2.2.trans h.completes, h.scripts_step hallowed hexec,
    h.untouched_step hallowed hexec⟩

end

variable {size_ : ℕ} {name_ : Bytes} {as : List (Action ρ ω)}

lemma good_initial (callbacks : Callbacks χ ρ ω) (size_ : ℕ) (name_ : Bytes) :
    (initial callbacks size_ name_).Good callbacks where
  attended := TcpServer.attended_initial _ _ _
  tame := TcpServer.tame_initial _ _ _
  completes := rfl
  scripts _ hne := absurd rfl hne
  untouched _ _ := ⟨rfl, rfl, rfl⟩

/-- Every state of a run in which few connections are accepted is good. -/
lemma good_of_run (hrun : (machine callbacks).Run (initial callbacks size_ name_) as s)
    (hfew : (machine callbacks).AllSteps Few (initial callbacks size_ name_) as) :
    s.Good callbacks :=
  hrun.invariant hfew (good_initial callbacks size_ name_)
    fun _ _ _ h hfew hallowed hexec => h.step hallowed hexec hfew

end Serving
end Miniduo
