import Miniduo.ServerTheorems

/-!
# Repeated calls of `start()`

`start()` tests `listening_`, which `listen` sets when its task is executed; `started_` is set and
never tested. A call that finds an earlier one's `listen` still waiting queues another, and the
second of them finds the channel in the poller.
-/

namespace Miniduo
namespace Server

/-- The action executes `Acceptor::listen`. -/
def RunsListen (s : Server) : Action → Prop
  | .tcp a => s.Listens a
  | .runListen t => (s.tcp.loop 0).isInLoopThread t.tid = true
  | _ => False

/-- The acceptor's channel has been added at most once, and no `listen` that is executed next faults
in `addChannel` or `updateChannel`. -/
structure AddsOnce (s : Server) : Prop where
  once : s.acceptor.adds ≤ 1
  asserts : ∀ a f, s.allowed a → s.RunsListen a → s.exec a ≠ .error (.fault f)

/-- A call of `start()` that finds `listening_` unset is alone: no `listen` waits, and no other call
is about to queue one. -/
def Alone (s : Server) : Action → Prop
  | .start _ => s.acceptor.listening_ = false → .listen ∉ s.userTasks ∧ s.starting = []
  | _ => True

instance (s : Server) : ∀ a, Decidable (s.Alone a)
  | .start _ => inferInstanceAs (Decidable (_ = false → _ ∧ _))
  | .tcp _ | .runListen _ | .destroy => isTrue trivial

/-! ## The invariant -/

/-- The calls of `listen` so far and to come. -/
def listens (s : Server) : ℕ :=
  (if s.acceptor.listening_ then 1 else 0) + s.userTasks.count .listen + s.starting.length

structure StartInv (s : Server) : Prop where
  placed : s.tcp.Placed
  listens : s.listens ≤ 1
  adds : s.acceptor.adds = if s.acceptor.listening_ then 1 else 0
  fresh : s.destroyed = false → s.acceptor.listening_ = false →
    s.poller.entry s.acceptor.acceptFd_ = (none, none) ∧
      s.acceptor.acceptChannel_.isNoneEvent = true

variable {s s' : Server}

lemma count_userTasksAfter_le (a : TcpServer.Action) :
    (s.userTasksAfter a).count .listen ≤ s.userTasks.count .listen := by
  unfold userTasksAfter
  split
  · rw [List.count_append]
    exact le_rfl
  · exact (List.tail_sublist _).count_le _
  · exact le_rfl

lemma Listens.userTasks_eq {a : TcpServer.Action} (h : s.Listens a) :
    s.userTasks = .listen :: s.userTasks.tail :=
  List.eq_cons_of_mem_head? h.2

/-- Where a `listen` waits or is about to, none has been executed. -/
lemma StartInv.not_listening (h : s.StartInv)
    (hone : 0 < s.userTasks.count .listen + s.starting.length) : s.acceptor.listening_ = false := by
  have hlistens := h.listens
  unfold Server.listens at hlistens
  cases hlistening : s.acceptor.listening_ with
  | false => rfl
  | true =>
    rw [hlistening] at hlistens
    simp only [if_true] at hlistens
    omega

/-- `listen` is executed: the one there was. -/
lemma StartInv.listened {p : EPollPoller Unit} (h : s.StartInv)
    (hlistening : s.acceptor.listening_ = false) {s₁ : Server} (hplaced : s₁.tcp.Placed)
    (hacceptor : s₁.acceptor = s.acceptor)
    (hnone : s₁.userTasks.count .listen + s₁.starting.length = 0) : (s₁.listened p).StartInv where
  placed := hplaced
  listens := by
    show 1 + s₁.userTasks.count .listen + s₁.starting.length ≤ 1
    omega
  adds := by
    show s₁.acceptor.adds + 1 = 1
    rw [hacceptor, h.adds, hlistening]
    rfl
  fresh _ hfalse := nomatch hfalse

lemma startInv_step {a : Action} (h : s.StartInv) (halone : s.Alone a) (hdid : s.Did a s') :
    s'.StartInv := by
  have hplaced := hdid.placed h.placed
  have hlistens := h.listens
  unfold Server.listens at hlistens
  cases hdid with
  | @stepped a tcp hallowed hadmits hlistens' hlives hexec =>
    have hcount := count_userTasksAfter_le (s := s) a
    refine ⟨hplaced, ?_, h.adds, h.fresh⟩
    show (if s.acceptor.listening_ then 1 else 0) + (s.userTasksAfter a).count .listen
      + s.starting.length ≤ 1
    omega
  | listened hallowed hlistens' hlives hadds =>
    have hcount : s.userTasks.count .listen = s.userTasks.tail.count .listen + 1 := by
      rw [hlistens'.userTasks_eq, List.count_cons_self, List.tail_cons]
    have hlistening := h.not_listening (by omega)
    refine h.listened hlistening hplaced rfl ?_
    show s.userTasks.tail.count .listen + s.starting.length = 0
    omega
  | @start t hlives =>
    refine ⟨hplaced, ?_, h.adds, h.fresh⟩
    show (if s.acceptor.listening_ then 1 else 0) + s.userTasks.count .listen
      + (if s.acceptor.listening_ then s.starting else t :: s.starting).length ≤ 1
    cases hlistening : s.acceptor.listening_ with
    | true =>
      rw [hlistening] at hlistens
      exact hlistens
    | false =>
      obtain ⟨hwaiting, hstarting⟩ := halone hlistening
      simp [List.count_eq_zero.mpr hwaiting, hstarting]
  | @listenQueued t ht hout =>
    have hlength := List.length_erase_of_mem ht
    have hpos := List.length_pos_of_mem ht
    refine ⟨hplaced, ?_, h.adds, h.fresh⟩
    show (if s.acceptor.listening_ then 1 else 0) + (s.userTasks ++ [UserTask.listen]).count .listen
      + (s.starting.erase t).length ≤ 1
    rw [List.count_append, List.count_singleton_self]
    omega
  | @listenRun t p ht hin hlives hadds =>
    have hlength := List.length_erase_of_mem ht
    have hpos := List.length_pos_of_mem ht
    have hlistening := h.not_listening (by omega)
    refine h.listened hlistening hplaced rfl ?_
    show s.userTasks.count .listen + (s.starting.erase t).length = 0
    omega
  | destroyed => exact ⟨hplaced, h.listens, h.adds, fun hlives => nomatch hlives⟩

/-- No assertion of `listen` fails. -/
lemma StartInv.addsOnce (h : s.StartInv) : s.AddsOnce := by
  constructor
  · rw [h.adds]
    split <;> decide
  · intro a f hallowed hlisten hfault
    have hlives : ∀ s₁ : Server, s₁.destroyed = true → s₁.listen 0 ≠ .error (.fault f) := by
      intro s₁ hdestroyed
      rw [listen, if_pos hdestroyed]
      intro h
      cases h
    -- what is left is a server that lives, in its loop thread
    have hreturns : ∀ s₁ : Server, s₁.poller = s.poller → s₁.acceptor = s.acceptor →
        s₁.destroyed = s.destroyed → (s₁.tcp.loop 0).isInLoopThread (0 : ℕ) = true →
        0 < s.userTasks.count .listen + s.starting.length → s₁.listen 0 ≠ .error (.fault f) := by
      intro s₁ hpoller hacceptor hsame hin hone hfault
      cases hdestroyed : s.destroyed with
      | true => exact hlives s₁ (hsame.trans hdestroyed) hfault
      | false =>
        obtain ⟨hentry, hnone⟩ := h.fresh hdestroyed (h.not_listening hone)
        rw [← hpoller, ← hacceptor] at hentry
        rw [← hacceptor] at hnone
        obtain ⟨s', hok⟩ := listen_returns (hsame.trans hdestroyed) hin hentry hnone
        rw [hok] at hfault
        cases hfault
    cases a with
    | tcp a =>
      have hlisten : s.Listens a := hlisten
      obtain ⟨hallowed, -, -⟩ := hallowed
      simp only [exec, step, if_pos hlisten] at hfault
      have hcount : 0 < s.userTasks.count .listen := by
        rw [hlisten.userTasks_eq, List.count_cons_self]
        exact Nat.succ_pos _
      obtain ⟨rfl, -⟩ := hlisten
      have hin := TcpServer.Next.inLoop (w := .task .user) hallowed h.placed
      exact hreturns s.popListen rfl rfl rfl hin (by omega) hfault
    | runListen t =>
      have hin : (s.tcp.loop 0).isInLoopThread t.tid = true := hlisten
      have ht : t ∈ s.starting := hallowed
      have hpos := List.length_pos_of_mem ht
      simp only [exec, runListen, hin, if_true] at hfault
      obtain rfl := h.placed.thread_eq hin
      exact hreturns { s with starting := s.starting.erase (.loop 0) } rfl rfl rfl hin (by omega)
        hfault
    | start t => exact hlisten
    | destroy => exact hlisten

/-! ## Every run -/

variable {size_ : ℕ} {name_ : Bytes} {callback : Bool} {wakeupFd_ timerfd_ : ℕ → ℕ} {acceptFd_ : ℕ}
  {as : List Action}

lemma startInv_initial :
    (initial size_ name_ callback wakeupFd_ timerfd_ acceptFd_).StartInv where
  placed := TcpServer.placed_initial _ _ _
  listens := Nat.zero_le 1
  adds := rfl
  fresh _ _ := ⟨rfl, rfl⟩

/-- **Repeated starts.** In every run in which a call of `start()` that finds `listening_` unset is
alone, the acceptor's channel is added at most once and no assertion about it fails. -/
theorem addsOnce_of_alone
    (hrun : machine.Run (initial size_ name_ callback wakeupFd_ timerfd_ acceptFd_) as s)
    (halone : machine.AllSteps Alone (initial size_ name_ callback wakeupFd_ timerfd_ acceptFd_) as) :
    s.AddsOnce :=
  (hrun.invariant halone startInv_initial fun _ _ _ h halone hallowed hexec =>
    startInv_step h halone (exec_did hallowed hexec)).addsOnce

/-- A server on a loop without sub-loops. -/
def single : Server := initial 0 [] false (fun _ => 3) (fun _ => 4) 5

/-- The main thread calls `start()` and enters the loop; another thread calls `start()` when the loop
runs. -/
def startAgain : List Action :=
  [.start (.other 0), .runListen (.other 0), .tcp (.start 0), .tcp (.swap 0), .tcp (.task 0 .user),
    .start (.other 1), .tcp (.endTasks 0)]

theorem addsOnce_startAgain :
    ∃ s, machine.Run single startAgain s ∧ s.acceptor.adds = 1 ∧ s.AddsOnce := by
  obtain ⟨s, hrun, hadds⟩ := Machine.Run.of_replay_map machine single startAgain
    (fun s => decide (s.acceptor.adds = 1)) (by decide +kernel)
  exact ⟨s, hrun, of_decide_eq_true hadds, addsOnce_of_alone hrun (by decide +kernel)⟩

/-- The main thread calls `start()` twice before it enters the loop, which executes the first of the
two tasks. -/
def startTwice : List Action :=
  [.start (.other 0), .runListen (.other 0), .start (.other 0), .runListen (.other 0),
    .tcp (.start 0), .tcp (.swap 0), .tcp (.task 0 .user)]

/-- The second task finds the channel in the poller. -/
theorem not_addsOnce :
    ¬∀ (size_ : ℕ) (name_ : Bytes) (callback : Bool) (wakeupFd_ timerfd_ : ℕ → ℕ) (acceptFd_ : ℕ)
      (as : List Action) (s : Server),
      machine.Run (initial size_ name_ callback wakeupFd_ timerfd_ acceptFd_) as s → s.AddsOnce := by
  intro h
  obtain ⟨s, hrun, hfault⟩ := Machine.Run.of_replay_map machine single startTwice
    (fun s => decide (machine.allowed s (.tcp (.task 0 .user)) ∧ s.Listens (.task 0 .user)) &&
      (match s.exec (.tcp (.task 0 .user)) with
        | .error f => decide (f = .fault .assertFailed)
        | .ok _ => false)) (by decide +kernel)
  rw [Bool.and_eq_true, decide_eq_true_eq] at hfault
  obtain ⟨⟨hallowed, hlistens⟩, hfault⟩ := hfault
  have hadds : s.AddsOnce := h 0 [] false (fun _ => 3) (fun _ => 4) 5 startTwice s hrun
  refine hadds.asserts (.tcp (.task 0 .user)) .assertFailed hallowed hlistens ?_
  split at hfault
  · rename_i f heq
    rw [heq, of_decide_eq_true hfault]
  · cases hfault

end Server
end Miniduo
