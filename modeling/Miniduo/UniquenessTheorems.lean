import Miniduo.VisitTheorems

/-!
# Whether names are unique

The names of connections that have not been removed are unique, and no connection loses its place in
`connections_` to another one, exactly as long as every new connection finds the earlier ones with
its number removed (`unique_iff_recycled`). The number of a connection is an `int` that wraps: a
connection that lives while `2 ^ 32` others come and go loses its name to the last of them
(`not_unique`).
-/

namespace Miniduo
namespace TcpServer

/-! ## The condition -/

/-- Names are unique among the connections that have not been removed, and `connections_` has each
of them under its name and nothing else. -/
structure Unique (s : TcpServer) : Prop where
  name : ∀ c < s.created, ∀ c' < s.created, (s.conn c).log.removals = 0 →
    (s.conn c').log.removals = 0 → (s.conn c).name_ = (s.conn c').name_ → c = c'
  listed : ∀ c < s.created, (s.conn c).log.removals = 0 →
    s.connections_ (s.conn c).name_ = some c
  bears : s.Bears

/-- A new connection finds its name free, and a connection leaves `connections_` only with its own
`connectDestroyed` queued. -/
structure KeepsNames (s : TcpServer) (a : Action) : Prop where
  free : s.FindsFree a
  kept : ∀ s', machine.exec s a = .ok s' → ∀ name c, s.connections_ name = some c →
    s'.connections_ name = some c ∨
      s'.connections_ name = none ∧ .task (.connectDestroyed c) ∈ s'.works (s.conn c).loop_

section
variable {s s' : TcpServer} {stage : ConnId → Stage} {i : ℕ} {c : ConnId} {a : Action}
  {size_ : ℕ} {name_ : Bytes} {callback : Bool} {as : List Action}

lemma Staged.listed (h : s.Staged stage) (hc : c < s.created)
    (hremovals : (s.conn c).log.removals = 0) : s.connections_ (s.conn c).name_ = some c :=
  h.mapped c hc ((h.fits c hc).removals.symm.trans hremovals)

lemma Staged.unique (h : s.Staged stage) (hbears : s.Bears) : s.Unique where
  name c hc c' hc' hremovals hremovals' heq := by
    have hlisted := h.listed hc hremovals
    rw [heq, h.listed hc' hremovals', Option.some.injEq] at hlisted
    exact hlisted.symm
  listed c hc := h.listed hc
  bears := hbears

/-- A removal takes the name from the connection that is removed, and from no other. -/
lemma removed.kept_names (h : (s.pop i).removed s' c)
    (hmapped : s.connections_ (s.conn c).name_ = some c) {name : Bytes} {c' : ConnId}
    (hname : s.connections_ name = some c') :
    s'.connections_ name = some c' ∨
      s'.connections_ name = none ∧ .task (.connectDestroyed c') ∈ s'.works (s.conn c').loop_ := by
  obtain ⟨s₁, heffect, -, rfl⟩ := h
  have hconnections : s₁.connections_ = s.connections_ := heffect.connections_eq
  show Function.update s₁.connections_ (s.conn c).name_ none name = some c' ∨
    Function.update s₁.connections_ (s.conn c).name_ none name = none ∧ _
  rw [hconnections]
  by_cases hown : name = (s.conn c).name_
  · rw [hown, hmapped, Option.some.injEq] at hname
    subst hname
    refine Or.inr ⟨by rw [hown, Function.update_self], ?_⟩
    have hqueued : Work.task (.connectDestroyed c) ∈
        (((s₁.unmap ((s.pop i).conn c).name_).queueInLoop (s.conn c).loop_
          (.connectDestroyed c))).works (s.conn c).loop_ := by
      rw [works_queueInLoop_self]
      exact List.mem_append_right _ (List.mem_singleton_self _)
    exact hqueued
  · rw [Function.update_of_ne hown]
    exact Or.inl hname

/-- Where the new name is free, no connection is overwritten. -/
lemma Lifecycle.keepsNames (h : s.Lifecycle stage) (hplaced : s.Placed) (hfree : s.FindsFree a)
    (hallowed : s.allowed a) : s.KeepsNames a := by
  refine ⟨hfree, fun s' hexec name c hname => ?_⟩
  have houtcome := exec_outcome hallowed hexec
  rcases houtcome.names_cases with hsame | ⟨i, c', hremoves, hremoved⟩ | ⟨i, fd, rfl, hsame⟩
  · rw [(Prod.mk.inj hsame).1]
    exact Or.inl hname
  · exact removed.kept_names hremoved (h.removes hplaced hallowed hremoves).2 hname
  · have hmap : s'.connections_ = Function.update s.connections_
        (connName s.name_ s.nextConnId_) (some s.created) := (Prod.mk.inj hsame).1
    have hne : name ≠ connName s.name_ s.nextConnId_ := by
      rintro rfl
      rw [show s.connections_ (connName s.name_ s.nextConnId_) = none from hfree] at hname
      cases hname
    rw [hmap, Function.update_of_ne hne]
    exact Or.inl hname

/-- A connection that has not been removed is in the way of every one that shares its number. -/
lemma KeepsNames.recycled (h : s.KeepsNames a) (hstaged : s.Staged stage)
    (hnumbered : s.Numbered) : s.Recycled a := by
  have hfree := h.free
  unfold Recycled
  split
  · intro c hc hdvd hremovals
    have hlisted := hstaged.listed hc hremovals
    rw [(hnumbered.shares_iff hc).mpr hdvd] at hlisted
    rw [show s.connections_ (connName s.name_ s.nextConnId_) = none from hfree] at hlisted
    cases hlisted
  · trivial

/-- **Names are unique and connections keep them** in a run exactly when every connection that is
accepted finds the earlier ones with its number removed. -/
theorem unique_iff_recycled (hrun : machine.Run (initial size_ name_ callback) as s) :
    (machine.AllSteps KeepsNames (initial size_ name_ callback) as ∧ s.Unique) ↔
      machine.AllSteps Recycled (initial size_ name_ callback) as := by
  constructor
  · rintro ⟨hkeeps, -⟩
    refine hrun.allSteps
      (I := fun s => (s.Placed ∧ ∃ stage, s.Lifecycle stage) ∧ s.Numbered ∧ s.Bears) hkeeps
      ⟨staged_initial _ _ _, names_initial _ _ _⟩ ?_ ?_
    · exact fun s a s' ⟨hstaged, hnames⟩ hkeeps hallowed hexec =>
        ⟨staged_step hstaged hkeeps.free hallowed hexec, names_step hnames hallowed hexec⟩
    · rintro s a ⟨⟨-, stage, hlifecycle⟩, hnumbered, -⟩ hkeeps -
      exact hkeeps.recycled hlifecycle.toStaged hnumbered
  · intro hrecycled
    have hfree := findsFree_steps hrun hrecycled fun _ _ h => h
    obtain ⟨-, stage, hlifecycle⟩ := staged_of_run hrun hfree
    refine ⟨?_, hlifecycle.toStaged.unique (names_of_run hrun).2⟩
    refine hrun.allSteps (I := fun s => s.Placed ∧ ∃ stage, s.Lifecycle stage) hfree
      (staged_initial _ _ _) (fun _ _ _ h hfree => staged_step h hfree) ?_
    rintro s a ⟨hplaced, stage, hlifecycle⟩ hfree hallowed
    exact hlifecycle.keepsNames hplaced hfree hallowed

end

theorem unique_closeAcrossLoops :
    ∃ s, machine.Run (initial 1 [] false) closeAcrossLoops s ∧
      machine.AllSteps Recycled (initial 1 [] false) closeAcrossLoops ∧
      ((machine.AllSteps KeepsNames (initial 1 [] false) closeAcrossLoops ∧ s.Unique) ↔
        machine.AllSteps Recycled (initial 1 [] false) closeAcrossLoops) := by
  obtain ⟨s, hrun, -⟩ := Machine.Run.of_replay_map machine (initial 1 [] false) closeAcrossLoops
    (fun _ => true) (by decide +kernel)
  have hfew : machine.AllSteps Few (initial 1 [] false) closeAcrossLoops := by decide +kernel
  have hrecycled : machine.AllSteps Recycled (initial 1 [] false) closeAcrossLoops :=
    hrun.allSteps (I := fun _ => True) hfew trivial (fun _ _ _ _ _ _ _ => trivial)
      fun _ _ _ hfew _ => hfew.recycled
  exact ⟨s, hrun, hrecycled, unique_iff_recycled hrun⟩

/-! ## A number that comes back -/

/-- Connection `0` is accepted on descriptor `7` and stays, and `n` others come and go. -/
def visits : ℕ → List Action
  | 0 => acceptOne ++ [.userReturns 0, .acceptorRead 0 none, .endHandlers 0, .swap 0, .endTasks 0]
  | n + 1 => visits n ++ visit (n + 1) 8

/-- The loop waits in `poll` after the first `n` visits. -/
structure Visited (s : TcpServer) (n : ℕ) : Prop where
  size : s.size_ = 0
  count : s.created = n + 1
  next : s.nextConnId_ = toInt (s.created + 1)
  handles : s.handles = []
  thread : s.thread 0 = { phase := .polling }
  inLoop : (s.loop 0).isInLoopThread 0 = true
  pending : (s.loop 0).pendingTasks_ = []
  fd : (s.conn 0).connChannel_.fd_ = 7
  entry : (s.poller 0).entry 8 = (none, none)
  first : s.connections_ (connName s.name_ 1) = some 0
  only : ∀ name c, s.connections_ name = some c → c = 0

section
variable {s : TcpServer} {n : ℕ}

/-- Nothing but `connections_` has a pointer, and it has one to connection `0` only. -/
lemma Visited.unused (h : s.Visited n) : s.Unused 8 := by
  intro c hc halive
  have hzero : c = 0 := by
    rcases halive with hlisted | hhandle | ⟨i, hi, hloop⟩
    · exact h.only _ c hlisted
    · rw [show (s.turn _ _).handles = s.handles from rfl, h.handles] at hhandle
      cases hhandle
    · have hi : i = 0 := Nat.le_zero.mp (h.size ▸ hi)
      subst hi
      rcases hloop with huser | ⟨task, htask, -⟩
      · rw [turn_thread] at huser
        cases huser
      · rw [turn_thread, turn_loop, h.pending] at htask
        cases htask
  rw [hzero, h.fd]
  decide

/-- The name of connection `0` is not the visitor's. -/
lemma Visited.connName_ne (h : s.Visited n) (hn : ¬2 ^ 32 ∣ n + 1) :
    connName s.name_ 1 ≠ connName s.name_ s.nextConnId_ := by
  intro heq
  have hone := connName_injective heq
  rw [h.next, h.count] at hone
  unfold toInt at hone
  omega

lemma Visited.left (h : s.Visited n) (hn : ¬2 ^ 32 ∣ n + 1) (conn : TcpConnection)
    (ctls : List (EpollCtl ConnId)) {loop : EventLoop Task} (hin : loop.isInLoopThread 0 = true)
    (hpending : loop.pendingTasks_ = []) :
    ((s.visited 8 conn ctls).turn { phase := .polling } loop).Visited (n + 1) := by
  have hconnections : (s.visited 8 conn ctls).connections_ =
      Function.update s.connections_ (connName s.name_ s.nextConnId_) none :=
    Function.update_idem ..
  have hconn : (s.visited 8 conn ctls).conn 0 = s.conn 0 := by
    have hne : 0 ≠ s.created := by
      rw [h.count]
      exact (Nat.succ_ne_zero n).symm
    have htouch := touch_conn_ne (s.withConnection 8) s.created conn
      ((s.poller 0).setEntry 8 (none, none) ctls) hne
    exact htouch.trans (Function.update_of_ne hne ..)
  have hpoller : (s.visited 8 conn ctls).poller 0 =
      (s.poller 0).setEntry 8 (none, none) ctls := by
    have htouch := touch_poller_self (s.withConnection 8) s.created conn
      ((s.poller 0).setEntry 8 (none, none) ctls)
    rwa [withConnection_loop h.size] at htouch
  exact {
    size := h.size
    count := congrArg (· + 1) h.count
    next := by
      show toInt (s.nextConnId_ + 1) = toInt ((s.created + 1 : ℕ) + 1)
      rw [h.next]
      unfold toInt
      push_cast
      omega
    handles := h.handles
    thread := turn_thread
    inLoop := by rwa [turn_loop]
    pending := by rwa [turn_loop]
    fd := by rw [turn_conn, hconn, h.fd]
    entry := by rw [turn_poller, hpoller, EPollPoller.entry_setEntry_self]
    first := by
      rw [turn_connections, hconnections]
      exact (Function.update_of_ne (h.connName_ne hn) ..).trans h.first
    only := by
      intro name c hname
      rw [turn_connections, hconnections, Function.update_apply] at hname
      split at hname
      · cases hname
      · exact h.only name c hname }

/-- A visit ends as it began, but for the number of the next connection. -/
lemma Visited.succ (h : s.Visited n) (hn : ¬2 ^ 32 ∣ n + 1) :
    ∃ s', machine.Run s (visit (n + 1) 8) s' ∧ s'.Visited (n + 1) := by
  obtain ⟨conn, ctls, loop, hvisit, hin, hpending⟩ :=
    run_visit h.size h.thread h.inLoop h.pending h.entry h.unused
  rw [h.count] at hvisit
  exact ⟨_, hvisit, h.left hn conn ctls hin hpending⟩

/-- Connection `0` keeps its name through `n` visits. -/
lemma visits_run (hn : n < 2 ^ 32) :
    ∃ s, machine.Run (initial 0 [] false) (visits n) s ∧ s.Visited n := by
  induction n with
  | zero =>
    obtain ⟨s, hrun, hs⟩ := Machine.Run.of_replay_map machine (initial 0 [] false) (visits 0)
      (fun s => decide (s.size_ = 0 ∧ s.created = 1 ∧ s.nextConnId_ = toInt (s.created + 1) ∧
        s.handles = [] ∧ s.thread 0 = { phase := .polling } ∧
        (s.loop 0).isInLoopThread 0 = true ∧ (s.loop 0).pendingTasks_ = [] ∧
        (s.conn 0).connChannel_.fd_ = 7 ∧ (s.poller 0).entry 8 = (none, none) ∧
        s.connections_ (connName s.name_ 1) = some 0)) (by decide +kernel)
    obtain ⟨hsize, hcreated, hnext, hhandles, hthread, hin, hpending, hfd, hentry, hfirst⟩ :=
      of_decide_eq_true hs
    refine ⟨s, hrun, hsize, hcreated, hnext, hhandles, hthread, hin, hpending, hfd, hentry, hfirst,
      fun name c hname => ?_⟩
    have hc : c < s.created := ((names_of_run hrun).2 name c hname).1
    rw [hcreated] at hc
    exact Nat.lt_one_iff.mp hc
  | succ n ih =>
    obtain ⟨s, hrun, hvisited⟩ := ih (by omega)
    obtain ⟨s', hvisit, hvisited'⟩ := hvisited.succ (Nat.not_dvd_of_pos_of_lt (by omega) hn)
    exact ⟨s', hrun.append hvisit, hvisited'⟩

/-- The connection after `2 ^ 32 - 1` visits has the name of connection `0`, which it overwrites. -/
theorem not_unique : ¬∀ (size_ : ℕ) (name_ : Bytes) (callback : Bool) (as : List Action) s,
    machine.Run (initial size_ name_ callback) as s →
      machine.AllSteps KeepsNames (initial size_ name_ callback) as ∧ s.Unique := by
  intro h
  -- `n` stands for `2 ^ 32 - 1`, so that nothing below evaluates the list of visits
  obtain ⟨n, hn, hdvd⟩ : ∃ n, n < 2 ^ 32 ∧ 2 ^ 32 ∣ n + 1 :=
    ⟨2 ^ 32 - 1, by norm_num, by norm_num⟩
  obtain ⟨s, hrun, hvisited⟩ := visits_run hn
  obtain ⟨s₁, hpoll, hconnections, hname, hnumber, haccept⟩ := run_to_accepted hvisited.size
    hvisited.thread hvisited.inLoop hvisited.entry hvisited.unused
  have hpolled := hrun.append hpoll
  have hkeeps := (h _ _ _ _ _ (hpolled.append haccept)).1
  have hfree : s₁.connections_ (connName s₁.name_ s₁.nextConnId_) = none :=
    (Machine.AllSteps.last hpolled hkeeps).free
  have hnext : s.nextConnId_ = 1 := by
    rw [hvisited.next, hvisited.count]
    unfold toInt
    omega
  rw [hconnections, hname, hnumber, hnext, hvisited.first] at hfree
  cases hfree

end

end TcpServer
end Miniduo
