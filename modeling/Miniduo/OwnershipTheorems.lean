import Miniduo.PlacementTheorems

/-!
# Tasks bound to raw pointers

`send`, `shutdown`, `close` and `closeInNextLoop` queue tasks that hold the raw pointer of the
connection. Such a task is safe as long as the last owning task, `connectDestroyed`, has not been
taken out of the queue in front of it; behind that point only user code can keep the connection
alive (`runs_on_live_of_keeps`). `closeInNextLoop` in the disconnect callback is enough to run on a
destroyed connection (`not_runs_on_live`).
-/

namespace Miniduo

/-- The connection whose raw pointer a work item is bound to. -/
def Work.raw : Work → Option ConnId
  | .task t => t.raw
  | _ => none

namespace TcpServer

/-! ## Who keeps a connection alive -/

/-- The connection is in `connections_`, or its `connectDestroyed` still waits in the queue of its
loop. -/
def Secured (s : TcpServer) (c : ConnId) : Prop :=
  s.connections_ (s.conn c).name_ = some c ∨
    .connectDestroyed c ∈ (s.loop (s.conn c).loop_).pendingTasks_

/-- A callback of the connection is still to run in this batch. -/
def CallbackLeft (s : TcpServer) (c : ConnId) : Prop :=
  .task (.writeCompleteCallback c) ∈ (s.thread (s.conn c).loop_).todo

/-- User code has a pointer to the connection, or will be given one in this batch. -/
def InUse (s : TcpServer) (c : ConnId) : Prop :=
  c ∈ s.handles ∨ (s.thread (s.conn c).loop_).user = some (some c) ∨ s.CallbackLeft c

/-- `connectDestroyed` is part of the batch that the loop is running. -/
def InBatch (s : TcpServer) (c : ConnId) : Prop :=
  .connectDestroyed c ∈ (s.thread (s.conn c).loop_).tasks

/-- Every raw task of the connection that waits is safe without user code. -/
def Covered (s : TcpServer) (c : ConnId) : Prop :=
  (∀ t ∈ (s.loop (s.conn c).loop_).pendingTasks_, t.raw = some c → s.Secured c) ∧
    ∀ w ∈ (s.thread (s.conn c).loop_).todo, w.raw = some c → s.Secured c ∨ s.InBatch c

/-- User code lets go of its last pointer to a connection only when every raw task of the
connection that waits is safe without it; the intermediate task of `closeInNextLoop` runs only while
the connection is secured or in use; and fewer than `2 ^ 31` connections are accepted. -/
def Keeps (s : TcpServer) : Action → Prop
  | .task _ (.closeInNextLoop c) => s.Secured c ∨ s.InUse c
  | .userReturns i => ∀ c ∈ (s.thread i).user.join, c ∈ s.handles ∨ s.CallbackLeft c ∨ s.Covered c
  | .dropPtr c => c ∈ s.handles.erase c ∨
      (s.thread (s.conn c).loop_).user = some (some c) ∨ s.CallbackLeft c ∨ s.Covered c
  | a => s.Few a

/-! ## The invariant -/

/-- A raw task that waits is safe, or user code has a pointer. -/
structure Guarded (s : TcpServer) (c : ConnId) : Prop where
  pending : ∀ t ∈ (s.loop (s.conn c).loop_).pendingTasks_, t.raw = some c →
    s.Secured c ∨ s.InUse c
  batch : ∀ t, .task t ∈ (s.thread (s.conn c).loop_).todo → t.raw = some c →
    s.Secured c ∨ s.InUse c ∨ s.InBatch c

/-- No raw task of the connection is added, and nothing that keeps it is lost. -/
structure Kept (s s' : TcpServer) (c : ConnId) : Prop where
  loop : (s'.conn c).loop_ = (s.conn c).loop_
  pending : ∀ t ∈ (s'.loop (s.conn c).loop_).pendingTasks_, t.raw = some c →
    t ∈ (s.loop (s.conn c).loop_).pendingTasks_
  todo : ∀ t, .task t ∈ (s'.thread (s.conn c).loop_).todo → t.raw = some c →
    .task t ∈ (s.thread (s.conn c).loop_).todo
  secured : s.Secured c → s'.Secured c
  inUse : s.InUse c → s'.InUse c
  inBatch : s.InBatch c → s'.InBatch c

section
variable {s s' s'' : TcpServer} {i : ℕ} {c c' : ConnId}

lemma Kept.trans (h : s.Kept s' c) (h' : s'.Kept s'' c) : s.Kept s'' c where
  loop := h'.loop.trans h.loop
  pending := fun t ht hraw => h.pending t (h'.pending t (h.loop ▸ ht) hraw |> (h.loop ▸ ·)) hraw
  todo := fun t ht hraw => h.todo t (h'.todo t (h.loop ▸ ht) hraw |> (h.loop ▸ ·)) hraw
  secured := fun hs => h'.secured (h.secured hs)
  inUse := fun hu => h'.inUse (h.inUse hu)
  inBatch := fun hb => h'.inBatch (h.inBatch hb)

lemma Guarded.kept (h : s.Guarded c) (hk : s.Kept s' c) : s'.Guarded c := by
  constructor
  · intro t ht hraw
    rw [hk.loop] at ht
    exact (h.pending t (hk.pending t ht hraw) hraw).imp hk.secured hk.inUse
  · intro t ht hraw
    rw [hk.loop] at ht
    exact (h.batch t (hk.todo t ht hraw) hraw).imp hk.secured (Or.imp hk.inUse hk.inBatch)

/-- What touches neither the queue nor the thread of the connection's loop, nor any pointer. -/
lemma kept_of_eq (hloop : (s'.conn c).loop_ = (s.conn c).loop_)
    (hname : (s'.conn c).name_ = (s.conn c).name_)
    (hmap : s.connections_ (s.conn c).name_ = some c → s'.connections_ (s.conn c).name_ = some c)
    (hhandles : c ∈ s.handles → c ∈ s'.handles)
    (hpending : (s'.loop (s.conn c).loop_).pendingTasks_ = (s.loop (s.conn c).loop_).pendingTasks_)
    (hthread : s'.thread (s.conn c).loop_ = s.thread (s.conn c).loop_) : s.Kept s' c where
  loop := hloop
  pending := fun t ht _ => hpending ▸ ht
  todo := fun t ht _ => hthread ▸ ht
  secured := by
    unfold Secured
    rw [hloop, hname, hpending]
    exact Or.imp_left hmap
  inUse := by
    unfold InUse CallbackLeft
    rw [hloop, hthread]
    exact Or.imp_left hhandles
  inBatch := by
    unfold InBatch
    rw [hloop, hthread]
    exact id

lemma Effect.kept {e : ConnEvent} (h : s.Effect c' e s') : s.Kept s' c := by
  have hsame : (s'.conn c).loop_ = (s.conn c).loop_ ∧ (s'.conn c).name_ = (s.conn c).name_ := by
    by_cases hc : c = c'
    · rw [hc]
      exact ⟨h.step.loop_eq, h.step.name_eq⟩
    · rw [h.other hc]
      exact ⟨rfl, rfl⟩
  obtain ⟨conn, p, -, -, hs'⟩ := h
  have hmap : s'.connections_ = s.connections_ := by rw [hs', touch_connections]
  have hhandles : s'.handles = s.handles := by rw [hs', touch_handles]
  refine kept_of_eq hsame.1 hsame.2 (hmap ▸ id) (hhandles ▸ id) ?_ ?_
  · rw [hs', touch_loop]
  · rw [hs', touch_thread]

lemma channelRemoved.kept (h : s.channelRemoved s' c') : s.Kept s' c := by
  obtain ⟨p, -, hs'⟩ := h
  rw [hs', touch, Function.update_eq_self]
  exact kept_of_eq rfl rfl id id rfl rfl

lemma mem_pending_queueInLoop {t t' : Task} {j : ℕ} :
    t' ∈ ((s.queueInLoop i t).loop j).pendingTasks_ ↔
      t' ∈ (s.loop j).pendingTasks_ ∨ (j = i ∧ t' = t) := by
  by_cases hj : j = i
  · rw [hj, queueInLoop_loop_self]
    simp [EventLoop.queueInLoop, EventLoop.wakeup]
  · rw [queueInLoop_loop_ne _ _ _ hj]
    simp [hj]

lemma Secured.queueInLoop {t : Task} (h : s.Secured c) : (s.queueInLoop i t).Secured c :=
  Or.imp_right (fun hp => mem_pending_queueInLoop.mpr (Or.inl hp)) h

/-- A raw task is queued only with a reason to be safe. -/
lemma Guarded.queueInLoop {t : Task} (h : s.Guarded c)
    (hraw : t.raw = some c → s.Secured c ∨ s.InUse c) : (s.queueInLoop i t).Guarded c := by
  constructor
  · intro t' ht' hraw'
    rcases mem_pending_queueInLoop.mp ht' with hold | ⟨-, hnew⟩
    · exact (h.pending t' hold hraw').imp_left Secured.queueInLoop
    · rw [hnew] at hraw'
      exact (hraw hraw').imp_left Secured.queueInLoop
  · intro t' ht' hraw'
    exact (h.batch t' ht' hraw').imp_left Secured.queueInLoop

/-- A loop thread goes on to work without new tasks, and user code keeps its pointers. -/
lemma kept_setThread {th : LoopThread} (htodo : ∀ t, .task t ∈ th.todo → .task t ∈ (s.thread i).todo)
    (huse : (s.thread i).user = some (some c) ∨ .task (.writeCompleteCallback c) ∈ (s.thread i).todo →
      th.user = some (some c) ∨ .task (.writeCompleteCallback c) ∈ th.todo)
    (htasks : .connectDestroyed c ∈ (s.thread i).tasks → .connectDestroyed c ∈ th.tasks) :
    s.Kept (s.setThread i th) c := by
  by_cases hi : (s.conn c).loop_ = i
  · refine ⟨rfl, fun t ht _ => ht, fun t ht _ => ?_, id, ?_, ?_⟩
    · rw [hi, setThread_thread_self] at ht
      rw [hi]
      exact htodo t ht
    · unfold InUse CallbackLeft
      rw [setThread_conn, hi, setThread_thread_self]
      exact Or.imp_right huse
    · unfold InBatch
      rw [setThread_conn, hi, setThread_thread_self]
      exact htasks
  · exact kept_of_eq rfl rfl id id rfl (setThread_thread_ne _ _ _ hi)

lemma kept_enterUser {arg : Option ConnId} (huser : (s.thread i).user = none) :
    s.Kept (s.enterUser i arg) c :=
  kept_setThread (fun _ ht => ht) (Or.imp_left fun hu => by rw [huser] at hu; cases hu) id

lemma kept_pop {w : Work} (hnext : s.Next i w) (hw : w ≠ .task (.writeCompleteCallback c)) :
    s.Kept (s.pop i) c := by
  refine kept_setThread (fun t ht => List.mem_of_mem_tail ht) (Or.imp_right fun hwc => ?_) id
  rw [hnext.todo_eq] at hwc
  exact (List.mem_cons.mp hwc).resolve_left (Ne.symm hw)

lemma kept_pushWork {w : Work} (hw : ∀ t, w ≠ .task t) : s.Kept (s.pushWork i w) c := by
  refine kept_setThread (fun t ht => ?_) (Or.imp_right fun hwc => List.mem_cons_of_mem _ hwc) id
  exact (List.mem_cons.mp ht).resolve_left (Ne.symm (hw t))

lemma callsDown.kept {rest : Work} (h : s.callsDown s' i c' rest)
    (hrest : rest = .closeCallback c' ∨ rest = .removeChannel c')
    (huser : (s.thread i).user = none) : s.Kept s' c := by
  obtain ⟨s₁, heffect, hs'⟩ := h
  rw [hs']
  refine (heffect.kept.trans (kept_pushWork ?_)).trans (kept_enterUser ?_)
  · intro t
    rcases hrest with hrest | hrest <;> rw [hrest] <;> simp
  · rw [TcpServer.pushWork, setThread_thread_self, heffect.thread_eq]
    exact huser

/-- `removeConnectionInLoop` hands the connection over to its `connectDestroyed`. -/
lemma removed.kept (h : s.removed s' c') (hnamed : s.Named) (hc : c < s.created)
    (hc' : c' < s.created) : s.Kept s' c := by
  obtain ⟨s₁, heffect, -, hs'⟩ := h
  refine heffect.kept.trans ?_
  have hname : (s₁.conn c').name_ = (s.conn c').name_ := heffect.step.name_eq
  have hloop : (s₁.conn c').loop_ = (s.conn c').loop_ := heffect.step.loop_eq
  rw [hs', ← hname, ← hloop]
  refine ⟨rfl, fun t ht hraw => ?_, fun t ht _ => ht, fun hsecured => ?_, id, id⟩
  · rcases mem_pending_queueInLoop.mp ht with hold | ⟨-, hnew⟩
    · exact hold
    · rw [hnew] at hraw
      cases hraw
  · by_cases heq : c = c'
    · -- its own removal: `connectDestroyed` waits in its loop now
      rw [heq]
      exact Or.inr (mem_pending_queueInLoop.mpr (Or.inr ⟨rfl, rfl⟩))
    · refine Secured.queueInLoop (Or.imp_left (fun hmap => ?_) hsecured)
      have hne : (s₁.conn c).name_ ≠ (s₁.conn c').name_ := by
        rw [heffect.other heq, hname]
        exact hnamed.ne hc hc' heq
      show Function.update s₁.connections_ (s₁.conn c').name_ none (s₁.conn c).name_ = some c
      rw [Function.update_of_ne hne]
      exact hmap

/-! ## Steps -/

/-- A loop thread at work queues no raw task, but for the second task of `closeInNextLoop`. -/
lemma Worked.guarded {w : Work} {a : Action} (h : s.Guarded c) (hnamed : s.Named)
    (hc : c < s.created) (hw : s.WorkAt i w) (huser : (s.thread i).user = none)
    (hagain : w = .task (.closeInNextLoop c) → s.Secured c ∨ s.InUse c)
    (hworked : s.Worked i w a s') : s'.Guarded c := by
  have henter : ∀ {s₁ : TcpServer} {e : ConnEvent} {c' : ConnId}, s.Effect c' e s₁ →
      (s₁.enterUser i (some c')).Guarded c := by
    intro s₁ e c' heffect
    exact h.kept (heffect.kept.trans (kept_enterUser (heffect.thread_eq ▸ huser)))
  cases hworked with
  | nothing _ _ _ => exact h
  | established heffect => exact henter heffect
  | destroyedDown hdown => exact h.kept (hdown.kept (Or.inr rfl) huser)
  | destroyed hgone => exact h.kept hgone.kept
  | removedTask hremoved => exact h.kept (hremoved.kept hnamed hc hw.1)
  | removedHere hremoved => exact h.kept (hremoved.kept hnamed hc hw.1)
  | removedQueued c' => exact h.queueInLoop fun hraw => by cases hraw
  | channelRemoved hgone => exact h.kept hgone.kept
  | writeComplete c' => exact h.kept (kept_enterUser huser)
  | accepted haccept => exact h.kept haccept.kept
  | shutdown hshutdown => exact h.kept hshutdown.kept
  | closed hdown => exact h.kept (hdown.kept (Or.inl rfl) huser)
  | again c' =>
    refine h.queueInLoop fun hraw => hagain ?_
    rw [Option.some.inj hraw]
  | peerClosed hdown => exact h.kept (hdown.kept (Or.inl rfl) huser)
  | read hread => exact henter hread
  | written hwrite => exact h.kept hwrite.kept
  | writtenAll hwrite => exact (h.kept hwrite.kept).queueInLoop fun hraw => by cases hraw
  | userTask => exact h.kept (kept_enterUser huser)
  | userHandler => exact h.kept (kept_enterUser huser)

/-- A caller has a pointer, so what it queues is safe for now. -/
lemma Called.guarded {t : Thread} {a : Action} (h : s.Guarded c) (hplaced : s.Placed)
    (hholds : s.Holds t c') (hcalled : s.Called t c' a s') : s'.Guarded c := by
  -- the caller's own pointer is one that outlives the call
  have huse : s.InUse c' := by
    obtain ⟨-, hmem | harg⟩ := hholds
    · exact Or.inl hmem
    · cases t with
      | loop i =>
        have hu : (s.thread i).user = some (some c') := Option.join_eq_some_iff.mp harg
        exact Or.inr (Or.inl (by rw [(hplaced.user i c' hu).2]; exact hu))
      | other n => cases harg
  have hqueue : ∀ {s₁ : TcpServer} {t' : Task}, s.Kept s₁ c → t'.raw = some c' →
      (s₁.queueInLoop (s.conn c').loop_ t').Guarded c := by
    intro s₁ t' hkept hraw'
    refine (h.kept hkept).queueInLoop fun hraw => Or.inr (hkept.inUse ?_)
    rw [hraw'] at hraw
    rw [← Option.some.inj hraw]
    exact huse
  have hrefl : s.Kept s c := kept_of_eq rfl rfl id id rfl rfl
  cases hcalled with
  | sendQueued hout hlength hsend => exact hqueue hsend.kept rfl
  | sendIgnored hin hsend => exact h.kept hsend.kept
  | sendAccepted hin hsend haccept => exact h.kept (hsend.kept.trans haccept.kept)
  | shutdownQueued _ => exact hqueue hrefl rfl
  | shutdownIgnored _ => exact h
  | shutdownRun hin hshutdown => exact h.kept hshutdown.kept
  | close => exact hqueue hrefl rfl
  | closeInNextLoop => exact hqueue hrefl rfl

/-- The new name is not that of another connection. -/
lemma kept_withConnection (hnamed : s.Named) {fd : ℕ} (hfew : s.created + 1 < 2 ^ 31)
    (hc : c < s.created) : s.Kept (s.withConnection fd) c := by
  have hconn : (s.withConnection fd).conn c = s.conn c := by
    simp only [withConnection, Function.update_of_ne (Nat.ne_of_lt hc)]
  refine kept_of_eq (by rw [hconn]) (by rw [hconn]) (fun hmap => ?_) id rfl rfl
  have hne := (hnamed.withConnection fd hfew).ne (Nat.lt_succ_of_lt hc) (Nat.lt_succ_self s.created)
    (Nat.ne_of_lt hc)
  rw [hconn] at hne
  simp only [withConnection, Function.update_self, opened] at hne
  simp only [withConnection, Function.update_of_ne hne]
  exact hmap

/-- A raw task waits in the loop of its connection. -/
lemma TaskAt.lives {t : Task} (h : s.TaskAt i t) (hraw : t.raw = some c) : s.Lives c i := by
  cases t <;> simp only [Task.raw, Option.some.injEq, reduceCtorEq] at hraw
  · exact hraw ▸ h.1
  · exact hraw ▸ h
  · exact hraw ▸ h
  · exact hraw ▸ h

/-- Nothing waits for a connection that has just been made. -/
lemma guarded_created (hplaced : s.Placed) (fd : ℕ) : (s.withConnection fd).Guarded s.created := by
  have hnone : ∀ j, ∀ w ∈ s.works j, ∀ t, w = .task t → t.raw ≠ some s.created := by
    intro j w hw t ht hraw
    have hat := hplaced.work j w hw
    rw [ht] at hat
    exact lt_irrefl _ (TaskAt.lives hat hraw).1
  constructor
  · intro t ht hraw
    exact absurd hraw (hnone _ _ (List.mem_append_right _ (List.mem_map_of_mem ht)) t rfl)
  · intro t ht hraw
    exact absurd hraw (hnone _ _ (List.mem_append_left _ ht) t rfl)

/-- A connection that is made in a step has no raw tasks. -/
lemma guarded_new {a : Action} (hplaced : s.Placed) (houtcome : s.Outcome a s')
    (hc : ¬c < s.created) (hc' : c < s'.created) : s'.Guarded c := by
  rcases houtcome.stays with ⟨hcounters, -⟩ | ⟨i, fd, ha, hcounters, -⟩
  · rw [show s'.created = s.created from congrArg Prod.fst hcounters] at hc'
    exact absurd hc' hc
  · rw [show s'.created = s.created + 1 from congrArg Prod.fst hcounters] at hc'
    have hnew : c = s.created :=
      Nat.le_antisymm (Nat.lt_succ_iff.mp hc') (Nat.le_of_not_lt hc)
    rw [hnew]
    -- only the acceptor makes connections
    rw [ha] at houtcome
    cases houtcome with
    | work hnext hworked =>
      have := hworked.work_eq
      cases this
    | acceptQueued hnext => exact (guarded_created hplaced fd).queueInLoop fun hraw => by cases hraw
    | acceptHere hnext hin heffect =>
      refine (guarded_created hplaced fd).kept (heffect.kept.trans (kept_enterUser ?_))
      rw [heffect.thread_eq]
      exact hnext.1
    | call hholds hcalled => cases hcalled

/-- The batch takes over what waited in the queue, `connectDestroyed` included. -/
lemma Guarded.swap (h : s.Guarded c) (hplaced : s.Placed)
    (hphase : (s.thread i).phase = .top) : (s.swap i).Guarded c := by
  have htodo : (s.thread i).todo = [] := (hplaced.threads i).todo_eq_nil (by rw [hphase]; decide)
  have huser : (s.thread i).user = none := (hplaced.threads i).user_eq_none (by rw [hphase]; decide)
  by_cases hi : (s.conn c).loop_ = i
  · constructor
    · intro t ht
      -- the queue of the loop is empty now
      have hempty : ((s.swap i).loop ((s.swap i).conn c).loop_).pendingTasks_ = [] := by
        show (Function.update s.loop i _ (s.conn c).loop_).pendingTasks_ = []
        rw [hi, Function.update_self]
      rw [hempty] at ht
      cases ht
    · intro t ht hraw
      have hthread : (s.swap i).thread ((s.swap i).conn c).loop_ = { s.thread i with
          phase := .tasks
          tasks := (s.loop i).pendingTasks_
          todo := (s.loop i).pendingTasks_.map .task } := by
        show Function.update s.thread i _ (s.conn c).loop_ = _
        rw [hi, Function.update_self]
      rw [hthread] at ht
      obtain ⟨t', ht', heq⟩ := List.mem_map.mp ht
      cases heq
      rw [← hi] at ht'
      rcases h.pending t ht' hraw with hsecured | huse
      · rcases hsecured with hmap | hwaits
        · exact Or.inl (Or.inl hmap)
        · refine Or.inr (Or.inr ?_)
          -- `connectDestroyed` waits in the same batch from here on
          unfold InBatch
          rw [hthread]
          exact hi ▸ hwaits
      · rcases huse with hhandle | hu | hleft
        · exact Or.inr (Or.inl (Or.inl hhandle))
        · rw [hi, huser] at hu
          cases hu
        · unfold CallbackLeft at hleft
          rw [hi, htodo] at hleft
          cases hleft
  · refine h.kept (kept_of_eq rfl rfl id id ?_ ?_)
    · show (Function.update s.loop i _ (s.conn c).loop_).pendingTasks_ = _
      rw [Function.update_of_ne hi]
    · show Function.update s.thread i _ (s.conn c).loop_ = _
      rw [Function.update_of_ne hi]

/-- Releasing a pointer of user code leaves a connection whose raw tasks are safe anyway, or
another pointer. -/
lemma guarded_release (hloop : (s'.conn c).loop_ = (s.conn c).loop_)
    (hpending : (s'.loop (s.conn c).loop_).pendingTasks_ = (s.loop (s.conn c).loop_).pendingTasks_)
    (htodo : (s'.thread (s.conn c).loop_).todo = (s.thread (s.conn c).loop_).todo)
    (hsecured : s.Secured c → s'.Secured c) (hbatch : s.InBatch c → s'.InBatch c)
    (hlast : s'.InUse c ∨ s.Covered c) : s'.Guarded c := by
  constructor <;> intro t ht hraw
  · rw [hloop, hpending] at ht
    rcases hlast with huse | hcovered
    · exact Or.inr huse
    · exact Or.inl (hsecured (hcovered.1 t ht hraw))
  · rw [hloop, htodo] at ht
    rcases hlast with huse | hcovered
    · exact Or.inr (Or.inl huse)
    · exact (hcovered.2 (.task t) ht hraw).imp hsecured fun hb => Or.inr (hbatch hb)

lemma Keeps.few {a : Action} (h : s.Keeps a) : s.Few a := by
  unfold Keeps at h
  split at h
  · trivial
  · trivial
  · trivial
  · exact h

/-- The raw tasks of a connection that exists stay guarded. -/
lemma Guarded.outcome {a : Action} (h : s.Guarded c) (hplaced : s.Placed) (hnamed : s.Named)
    (hc : c < s.created) (hkeeps : s.Keeps a) (houtcome : s.Outcome a s') : s'.Guarded c := by
  cases houtcome with
  | @start i hi hphase =>
    refine h.kept (((kept_of_eq rfl rfl id id ?_ rfl) : s.Kept { s with
      loop := Function.update s.loop i { (s.loop i).settid i with stoplooping_ := false } } c).trans
        (kept_setThread (fun _ ht => ht) id id))
    show (Function.update s.loop i _ (s.conn c).loop_).pendingTasks_ = _
    by_cases hi : (s.conn c).loop_ = i
    · rw [hi, Function.update_self]
      rfl
    · rw [Function.update_of_ne hi]
  | swap hphase => exact h.swap hplaced hphase
  | @endTasks i hphase htodo huser =>
    -- no task of the batch is left, so its end takes nothing that one needs
    by_cases hi : (s.conn c).loop_ = i
    · constructor
      · intro t ht hraw
        have hguard := h.pending t ht hraw
        refine hguard.imp_right fun huse => ?_
        unfold InUse CallbackLeft
        rw [setThread_conn, hi, setThread_thread_self]
        unfold InUse CallbackLeft at huse
        rw [hi] at huse
        exact huse
      · intro t ht
        rw [setThread_conn, hi, setThread_thread_self] at ht
        simp only [htodo] at ht
        cases ht
    · exact h.kept (kept_of_eq rfl rfl id id rfl (setThread_thread_ne _ _ _ hi))
  | @poll i active hallowed =>
    have hphase : (s.thread i).phase = .polling := hallowed.1
    have htodo : (s.thread i).todo = [] := (hplaced.threads i).todo_eq_nil (by rw [hphase]; decide)
    refine h.kept (kept_setThread (fun t ht => ?_) (Or.imp_right fun hleft => ?_) id)
    · obtain ⟨r, -, hw⟩ := List.mem_flatMap.mp ht
      cases r <;> simp only [Ready.work, List.mem_append, List.mem_singleton, reduceCtorEq] at hw
      rcases hw with hw | hw <;> split at hw <;> simp at hw
    · rw [htodo] at hleft
      cases hleft
  | endHandlers hphase htodo huser => exact h.kept (kept_setThread (fun _ ht => ht) id id)
  | @userReturns i huser =>
    by_cases hlast : (s.thread i).user = some (some c)
    · have hi : (s.conn c).loop_ = i := (hplaced.user i c hlast).2
      have hmem : c ∈ (s.thread i).user.join := by rw [hlast]; rfl
      have hthread : (s.setThread i { s.thread i with user := none }).thread (s.conn c).loop_ =
          { s.thread i with user := none } := by rw [hi, setThread_thread_self]
      refine guarded_release (s := s) rfl rfl (by rw [hthread, hi]) id ?_ ?_
      · unfold InBatch
        rw [setThread_conn, hthread, hi]
        exact id
      · rcases hkeeps c hmem with hhandle | hleft | hcovered
        · exact Or.inl (Or.inl hhandle)
        · refine Or.inl (Or.inr (Or.inr ?_))
          unfold CallbackLeft at hleft ⊢
          rw [setThread_conn, hthread]
          rw [hi] at hleft
          exact hleft
        · exact Or.inr hcovered
    · exact h.kept (kept_setThread (fun _ ht => ht) (Or.imp_left fun hu => absurd hu hlast) id)
  | @work i w a s' hnext hworked =>
    by_cases hw : w = .task (.writeCompleteCallback c)
    · -- the callback is running instead of waiting
      rw [hw] at hworked
      have hs' : s' = (s.pop i).enterUser i (some c) := by
        cases hworked with
        | nothing _ hw _ =>
          rcases hw with hw | ⟨_, hw⟩ | ⟨_, hw⟩ | ⟨t, hw, hraw⟩
          · cases hw
          · cases hw
          · cases hw
          · cases hw
            exact absurd rfl hraw
        | writeComplete _ => rfl
      rw [hs', TcpServer.pop, TcpServer.enterUser, setThread_thread_self]
      have hset : ∀ th th' : LoopThread, (s.setThread i th).setThread i th' = s.setThread i th' := by
        intro th th'
        simp [TcpServer.setThread]
      rw [hset]
      exact h.kept (kept_setThread (fun t ht => List.mem_of_mem_tail ht)
        (fun _ => Or.inl rfl) id)
    · have hkept : s.Kept (s.pop i) c := kept_pop hnext hw
      have huser : ((s.pop i).thread i).user = none := by
        rw [TcpServer.pop, setThread_thread_self]
        exact hnext.1
      refine hworked.guarded (h.kept hkept) hnamed.pop hc (hplaced.workAt hnext : s.WorkAt i w)
        huser ?_
      intro hagain
      have ha := hworked.work_eq
      rw [hagain] at ha
      rw [Action.eq_task ha] at hkeeps
      exact Or.imp hkept.secured hkept.inUse hkeeps
  | acceptQueued hnext =>
    exact (h.kept (kept_withConnection hnamed hkeeps hc)).queueInLoop fun hraw => by cases hraw
  | acceptHere hnext hin heffect =>
    refine h.kept ((kept_withConnection hnamed hkeeps hc).trans
      (heffect.kept.trans (kept_enterUser ?_)))
    rw [heffect.thread_eq]
    exact hnext.1
  | call hholds hcalled => exact hcalled.guarded h hplaced hholds
  | queueUser => exact h.queueInLoop fun hraw => by cases hraw
  | retrieve hretrieve => exact h.kept hretrieve.kept
  | copyPtr hholds =>
    exact h.kept (kept_of_eq rfl rfl id (fun hmem => List.mem_cons_of_mem _ hmem) rfl rfl)
  | dropPtr c' =>
    by_cases heq : c = c'
    · rw [← heq] at hkeeps ⊢
      refine guarded_release (s := s) rfl rfl rfl id id ?_
      rcases hkeeps with hhandle | hu | hleft | hcovered
      · exact Or.inl (Or.inl hhandle)
      · exact Or.inl (Or.inr (Or.inl hu))
      · exact Or.inl (Or.inr (Or.inr hleft))
      · exact Or.inr hcovered
    · exact h.kept (kept_of_eq rfl rfl id (fun hmem => (List.mem_erase_of_ne heq).mpr hmem) rfl rfl)

/-- A guarded raw task runs on a live connection: each of its reasons to be safe is a pointer. -/
lemma Guarded.alive {t : Task} (h : s.Guarded c) (hplaced : s.Placed)
    (hnext : s.Next i (.task t)) (hraw : t.raw = some c) : s.Alive c := by
  have hi : s.Lives c i := TaskAt.lives (hplaced.workAt hnext) hraw
  have hle : i ≤ s.size_ := hi.2 ▸ hplaced.loops c hi.1
  -- a task that owns a pointer, in the batch or in the queue
  have htask : ∀ t', t'.owner = some c →
      t' ∈ (s.thread i).tasks ++ (s.loop i).pendingTasks_ → s.Alive c := fun t' howner hmem =>
    Or.inr (Or.inr ⟨i, hle, Or.inr ⟨t', hmem, howner⟩⟩)
  have hmem : .task t ∈ (s.thread (s.conn c).loop_).todo := by
    rw [hi.2, hnext.todo_eq]
    exact List.mem_cons_self
  rcases h.batch t hmem hraw with (hmap | hwaits) | (hhandle | hu | hleft) | hbatch
  · exact Or.inl hmap
  · exact htask _ rfl (List.mem_append_right _ (hi.2 ▸ hwaits))
  · exact Or.inr (Or.inl hhandle)
  · exact Or.inr (Or.inr ⟨i, hle, Or.inl (hi.2 ▸ hu)⟩)
  · unfold CallbackLeft at hleft
    rw [hi.2] at hleft
    exact htask _ rfl (List.mem_append_left _ ((hplaced.threads i).batch _ hleft))
  · unfold InBatch at hbatch
    rw [hi.2] at hbatch
    exact htask _ rfl (List.mem_append_left _ hbatch)

/-! ## Runs -/

variable {size_ : ℕ} {name_ : Bytes} {callback : Bool} {as : List Action}

/-- **Raw tasks run on live connections** in every run in which user code keeps its pointers as
`Keeps` says. -/
theorem runs_on_live_of_keeps (hrun : machine.Run (initial size_ name_ callback) as s)
    (hkeeps : machine.AllSteps Keeps (initial size_ name_ callback) as) :
    machine.AllSteps RunsOnLive (initial size_ name_ callback) as := by
  refine hrun.allSteps (I := fun s => s.Placed ∧ s.Named ∧ ∀ c < s.created, s.Guarded c) hkeeps
    ⟨placed_initial _ _ _, named_initial _ _ _, fun c hc => absurd hc (Nat.not_lt_zero c)⟩ ?_ ?_
  · intro s a s' ⟨hplaced, hnamed, hguarded⟩ hk hallowed hexec
    have houtcome := exec_outcome hallowed hexec
    refine ⟨hplaced.outcome hallowed houtcome, hnamed.outcome hk.few houtcome, fun c hc => ?_⟩
    by_cases hold : c < s.created
    · exact (hguarded c hold).outcome hplaced hnamed hold hk houtcome
    · exact guarded_new hplaced houtcome hold hc
  · intro s a ⟨hplaced, hnamed, hguarded⟩ hk hallowed
    unfold RunsOnLive
    split
    · rename_i i t
      intro c hraw
      have hlives : s.Lives c i := TaskAt.lives (hplaced.workAt hallowed) hraw
      exact (hguarded c hlives.1).alive hplaced hallowed hraw
    · trivial

end

/-! ## Decidability, and two runs -/

instance (s : TcpServer) (c : ConnId) : Decidable (s.Secured c) := inferInstanceAs (Decidable (_ ∨ _))

instance (s : TcpServer) (c : ConnId) : Decidable (s.CallbackLeft c) :=
  inferInstanceAs (Decidable (_ ∈ _))

instance (s : TcpServer) (c : ConnId) : Decidable (s.InUse c) :=
  inferInstanceAs (Decidable (_ ∨ _ ∨ _))

instance (s : TcpServer) (c : ConnId) : Decidable (s.InBatch c) := inferInstanceAs (Decidable (_ ∈ _))

instance (s : TcpServer) (c : ConnId) : Decidable (s.Covered c) := inferInstanceAs (Decidable (_ ∧ _))

instance (s : TcpServer) : ∀ a, Decidable (s.Keeps a)
  | .task _ (.closeInNextLoop _) => inferInstanceAs (Decidable (_ ∨ _))
  | .userReturns _ => inferInstanceAs (Decidable (∀ c ∈ _, _))
  | .dropPtr _ => inferInstanceAs (Decidable (_ ∨ _ ∨ _))
  | .acceptorRead i connfd => inferInstanceAs (Decidable (s.Few (.acceptorRead i connfd)))
  | .task _ (.connectEstablished _) | .task _ (.connectDestroyed _)
  | .task _ (.removeConnectionInLoop _) | .task _ (.writeCompleteCallback _)
  | .task _ (.sendInLoop ..) | .task _ (.shutdownInLoop _) | .task _ (.closeInLoop _)
  | .task _ .user | .start _ | .swap _ | .endTasks _ | .poll .. | .handleRead .. | .handleWrite ..
  | .userHandler _ | .closeCallback .. | .removeChannel .. | .endHandlers _ | .send ..
  | .shutdown .. | .close .. | .closeInNextLoop .. | .queueUser .. | .retrieve .. | .copyPtr .. =>
    isTrue trivial

/-- A loop thread goes round once and takes its queue. -/
def goRound : List Action := [.endTasks 0, .poll 0 [], .endHandlers 0, .swap 0]

/-- The connection callback calls `closeInNextLoop`. -/
def closeFromCallback : List Action :=
  acceptOne ++ [.closeInNextLoop (.loop 0) 0, .userReturns 0, .acceptorRead 0 none, .endHandlers 0,
    .swap 0, .task 0 (.closeInNextLoop 0)] ++ goRound ++
  [.task 0 (.closeInLoop 0), .userReturns 0, .closeCallback 0 0] ++ goRound ++
  [.task 0 (.connectDestroyed 0)]

theorem runs_on_live_closeFromCallback :
    machine.AllSteps RunsOnLive (initial 0 [] false) closeFromCallback := by
  obtain ⟨s, hrun, -⟩ := Machine.Run.of_replay_map machine (initial 0 [] false)
    closeFromCallback (fun _ => true) (by decide +kernel)
  exact runs_on_live_of_keeps hrun (by decide +kernel)

/-- The peer closes, and the disconnect callback calls `closeInNextLoop`: its first task runs in one
batch with `connectDestroyed`, and its second task in the next. -/
def closeFromDisconnect : List Action :=
  acceptOne ++ [.userReturns 0, .acceptorRead 0 none, .endHandlers 0, .swap 0, .endTasks 0,
    .poll 0 [.conn 0 true false], .handleRead 0 0 (some []), .closeInNextLoop (.loop 0) 0,
    .userReturns 0, .closeCallback 0 0, .endHandlers 0, .swap 0, .task 0 (.closeInNextLoop 0),
    .task 0 (.connectDestroyed 0)] ++ goRound ++ [.task 0 (.closeInLoop 0)]

/-- `closeInLoop` runs on a connection that has been destroyed. -/
theorem not_runs_on_live : ¬∀ (size_ : ℕ) (name_ : Bytes) (callback : Bool) (as : List Action) s,
    machine.Run (initial size_ name_ callback) as s →
      machine.AllSteps RunsOnLive (initial size_ name_ callback) as := by
  intro h
  obtain ⟨s, hrun, -⟩ := Machine.Run.of_replay_map machine (initial 0 [] false)
    closeFromDisconnect (fun _ => true) (by decide +kernel)
  exact absurd (h 0 [] false closeFromDisconnect s hrun) (by decide +kernel)

end TcpServer
end Miniduo
