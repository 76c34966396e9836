import Miniduo.TcpServerTheorems

/-!
# Where threads, tasks and handlers can be

`Placed` holds in every state that the server can reach: a task or a handler of a connection waits
in the loop of the connection, a thread in user code stands between two of its own tasks or
handlers, and a loop that runs recognises its own thread. Nothing here needs a bound on the number
of connections or on what user code does.
-/

namespace Miniduo

/-- The parts of an iteration in which a loop thread can have the work left to do. -/
def Work.In : Work → Phase → Prop
  | .task _, phase => phase = .tasks
  | .closeCallback _, phase | .removeChannel _, phase => phase = .tasks ∨ phase = .handlers
  | _, phase => phase = .handlers

/-- A loop thread in one part of its iteration has nothing left of another. -/
structure LoopThread.Ok (th : LoopThread) : Prop where
  part : ∀ w ∈ th.todo, w.In th.phase
  batch : ∀ t, .task t ∈ th.todo → t ∈ th.tasks
  user : th.user ≠ none → th.phase = .tasks ∨ th.phase = .handlers

/-- Outside the batch and the handlers a thread has nothing left to do. -/
lemma LoopThread.Ok.todo_eq_nil {th : LoopThread} (h : th.Ok)
    (hphase : th.phase ≠ .tasks ∧ th.phase ≠ .handlers) : th.todo = [] := by
  obtain ⟨htasks, hhandlers⟩ := hphase
  refine List.eq_nil_iff_forall_not_mem.mpr fun w hw => ?_
  have := h.part w hw
  cases w <;> simp_all [Work.In]

/-- Outside the batch and the handlers a thread is not in user code. -/
lemma LoopThread.Ok.user_eq_none {th : LoopThread} (h : th.Ok)
    (hphase : th.phase ≠ .tasks ∧ th.phase ≠ .handlers) : th.user = none := by
  by_contra hne
  exact (h.user hne).elim hphase.1 hphase.2

namespace TcpServer

/-- The connection exists, and its loop is `i`. -/
def Lives (s : TcpServer) (c : ConnId) (i : ℕ) : Prop := c < s.created ∧ (s.conn c).loop_ = i

/-- The task can wait in loop `i`. A thread does not queue `sendInLoop` in its own loop. -/
def TaskAt (s : TcpServer) (i : ℕ) : Task → Prop
  | .connectEstablished c | .connectDestroyed c | .writeCompleteCallback c | .shutdownInLoop c
  | .closeInLoop c | .closeInNextLoop c => s.Lives c i
  | .sendInLoop c sender msg => s.Lives c i ∧ sender ≠ .loop i ∧ msg.length ≤ maxSize
  | .removeConnectionInLoop c => c < s.created ∧ i = 0
  | .user => True

/-- The work can wait in loop `i`. -/
def WorkAt (s : TcpServer) (i : ℕ) : Work → Prop
  | .task t => s.TaskAt i t
  | .acceptorRead => i = 0
  | .handleRead c | .handleWrite c | .closeCallback c | .removeChannel c => s.Lives c i
  | .userHandler => True

/-- A loop is recognised as running iff its thread has entered `loop()`. -/
structure LoopOk (s : TcpServer) (i : ℕ) : Prop where
  running : (s.thread i).phase ≠ .notStarted →
    i ≤ s.size_ ∧ (s.loop i).stoplooping_ = false ∧ (s.loop i).tid_ = i
  stopped : (s.thread i).phase = .notStarted → (s.loop i).stoplooping_ = true

/-- Threads, tasks, handlers and the channels that the kernel knows are where they belong. -/
structure Placed (s : TcpServer) : Prop where
  next : s.size_ = 0 ∨ s.next_ < s.size_
  loops : ∀ c < s.created, (s.conn c).loop_ ≤ s.size_
  work : ∀ i, ∀ w ∈ s.works i, s.WorkAt i w
  user : ∀ i c, (s.thread i).user = some (some c) → s.Lives c i
  handles : ∀ c ∈ s.handles, c < s.created
  kernel : ∀ i fd c events, (s.poller i).epoll fd = some (c, events) → s.Lives c i
  threads : ∀ i, (s.thread i).Ok
  running : ∀ i, s.LoopOk i

/-! ## What the operations preserve -/

/-- Connections are only added, and stay on their loops. -/
def Extends (s s' : TcpServer) : Prop :=
  s.created ≤ s'.created ∧ ∀ c < s.created, (s'.conn c).loop_ = (s.conn c).loop_

section
variable {s s' : TcpServer} {i c : ℕ} {w : Work}

/-- Connections stay on their loops. -/
lemma Extends.lives (h : s.Extends s') (hc : s.Lives c i) : s'.Lives c i := by
  obtain ⟨hle, hloop⟩ := h
  obtain ⟨hlt, hi⟩ := hc
  exact ⟨lt_of_lt_of_le hlt hle, by rw [hloop c hlt, hi]⟩

/-- Work that is in its place stays there. -/
lemma Extends.workAt (h : s.Extends s') (hw : s.WorkAt i w) : s'.WorkAt i w := by
  have hlt : ∀ c, c < s.created → c < s'.created := fun c hc => lt_of_lt_of_le hc h.1
  cases w with
  | task t =>
    cases t with
    | sendInLoop c sender msg => exact ⟨h.lives hw.1, hw.2⟩
    | removeConnectionInLoop c => exact ⟨hlt c hw.1, hw.2⟩
    | user => trivial
    | _ => exact h.lives hw
  | acceptorRead => exact hw
  | userHandler => trivial
  | _ => exact h.lives hw

/-- A connection that is touched stays on its loop. -/
lemma extends_touch {conn : TcpConnection} (p : EPollPoller ConnId)
    (hloop : conn.loop_ = (s.conn c).loop_) : s.Extends (s.touch c conn p) := by
  refine ⟨le_refl _, fun c' _ => ?_⟩
  by_cases hc : c' = c
  · rw [hc, touch_conn_self, hloop]
  · rw [touch_conn_ne _ _ _ _ hc]

/-- An event of a connection leaves it on its loop. -/
lemma Effect.extends {e : ConnEvent} (h : s.Effect c e s') : s.Extends s' := by
  obtain ⟨conn, p, hstep, -, hs'⟩ := h
  rw [hs']
  exact extends_touch p hstep.loop_eq

/-- Work is done in the batch and among the handlers. -/
lemma Next.thread (h : s.Next i w) (hth : (s.thread i).Ok) :
    (s.thread i).phase = .tasks ∨ (s.thread i).phase = .handlers := by
  have hw : w ∈ (s.thread i).todo := by
    rw [h.todo_eq]
    exact List.mem_cons_self
  have := hth.part w hw
  cases w <;> simp_all [Work.In]

/-- A loop thread goes on: it is neither started nor stopped. -/
lemma Placed.setThread (h : s.Placed) {th : LoopThread} (hth : th.Ok)
    (hstarted : th.phase = .notStarted ↔ (s.thread i).phase = .notStarted)
    (htodo : ∀ w ∈ th.todo, s.WorkAt i w)
    (huser : ∀ c, th.user = some (some c) → s.Lives c i) : (s.setThread i th).Placed where
  next := h.next
  loops := h.loops
  work := by
    intro j w hw
    by_cases hj : j = i
    · subst hj
      rw [works, setThread_thread_self, setThread_loop] at hw
      rcases List.mem_append.mp hw with hw | hw
      · -- what is left of the batch, and then the queue
        exact htodo w hw
      · exact h.work j w (List.mem_append_right _ hw)
    · rw [works, setThread_thread_ne _ _ _ hj, setThread_loop] at hw
      exact h.work j w hw
  user := by
    intro j c hc
    by_cases hj : j = i
    · subst hj
      rw [setThread_thread_self] at hc
      exact huser c hc
    · rw [setThread_thread_ne _ _ _ hj] at hc
      exact h.user j c hc
  handles := h.handles
  kernel := h.kernel
  threads := by
    intro j
    by_cases hj : j = i
    · rw [hj, setThread_thread_self]
      exact hth
    · rw [setThread_thread_ne _ _ _ hj]
      exact h.threads j
  running := by
    intro j
    have hj := h.running j
    by_cases hji : j = i
    · subst hji
      constructor
      · intro hphase
        rw [setThread_thread_self] at hphase
        exact hj.running fun hn => hphase (hstarted.mpr hn)
      · intro hphase
        rw [setThread_thread_self] at hphase
        exact hj.stopped (hstarted.mp hphase)
    · constructor <;> rw [setThread_thread_ne _ _ _ hji]
      · exact hj.running
      · exact hj.stopped

/-- A task can be queued where it can wait. -/
lemma Placed.queueInLoop (h : s.Placed) {t : Task} (ht : s.TaskAt i t) :
    (s.queueInLoop i t).Placed where
  next := h.next
  loops := h.loops
  work := by
    intro j w hw
    by_cases hj : j = i
    · subst hj
      rw [works_queueInLoop_self, List.mem_append, List.mem_singleton] at hw
      rcases hw with hw | hw
      · exact h.work j w hw
      · rw [hw]
        exact ht
    · rw [works_queueInLoop_ne _ hj] at hw
      exact h.work j w hw
  user := h.user
  handles := h.handles
  kernel := h.kernel
  threads := h.threads
  running := by
    intro j
    constructor
    · intro hphase
      rw [queueInLoop_stoplooping, queueInLoop_tid]
      exact (h.running j).running hphase
    · intro hphase
      rw [queueInLoop_stoplooping]
      exact (h.running j).stopped hphase

/-- The kernel learns of a connection from its own loop only. -/
lemma Placed.touch (h : s.Placed) (hc : c < s.created) {conn : TcpConnection}
    {p : EPollPoller ConnId} (hloop : conn.loop_ = (s.conn c).loop_)
    (hlearns : (s.poller (s.conn c).loop_).Learns c p) : (s.touch c conn p).Placed := by
  have hext := extends_touch p hloop
  refine ⟨h.next, ?_, ?_, fun j c' hu => hext.lives (h.user j c' hu), h.handles, ?_, h.threads,
    fun j => ⟨(h.running j).running, (h.running j).stopped⟩⟩
  · intro c' hc'
    rw [hext.2 c' hc']
    exact h.loops c' hc'
  · intro j w hw
    exact hext.workAt (h.work j w hw)
  · intro j fd c' events hepoll
    apply hext.lives
    by_cases hj : j = (s.conn c).loop_
    · subst hj
      simp only [TcpServer.touch, Function.update_self] at hepoll
      -- an entry of the kernel is an old one, or about `c` itself
      rcases hlearns fd _ hepoll with hold | hnew
      · exact h.kernel _ fd c' events hold
      · simp only at hnew
        rw [hnew]
        exact ⟨hc, rfl⟩
    · simp only [TcpServer.touch, Function.update_of_ne hj] at hepoll
      exact h.kernel j fd c' events hepoll

lemma Placed.effect (h : s.Placed) {e : ConnEvent} (hc : c < s.created) (he : s.Effect c e s') :
    s'.Placed := by
  obtain ⟨conn, p, hstep, hpolled, hs'⟩ := he
  rw [hs']
  exact h.touch hc hstep.loop_eq hpolled.learns

lemma Placed.channelRemoved (h : s.Placed) (hc : c < s.created) (hgone : s.channelRemoved s' c) :
    s'.Placed := by
  obtain ⟨p, hremove, hs'⟩ := hgone
  rw [hs']
  exact h.touch hc rfl (EPollPoller.removeChannel_learns hremove)

/-- The next piece of work is in its place. -/
lemma Placed.workAt (h : s.Placed) (hnext : s.Next i w) : s.WorkAt i w := by
  refine h.work i w ?_
  rw [works_pop_self hnext]
  exact List.mem_cons_self

lemma Placed.pop (h : s.Placed) : (s.pop i).Placed := by
  have hth := h.threads i
  have htail : ∀ w' ∈ (s.thread i).todo.tail, w' ∈ (s.thread i).todo := fun w' hw' =>
    List.mem_of_mem_tail hw'
  refine h.setThread ⟨?_, ?_, hth.user⟩ Iff.rfl ?_ (h.user i)
  · exact fun w' hw' => hth.part w' (htail w' hw')
  · exact fun t ht => hth.batch t (htail _ ht)
  · exact fun w' hw' => h.work i w' (List.mem_append_left _ (htail w' hw'))

/-- Behind a task or in a handler, the loop thread can call user code. -/
lemma Placed.enterUser (h : s.Placed) {arg : Option ConnId}
    (hphase : (s.thread i).phase = .tasks ∨ (s.thread i).phase = .handlers)
    (harg : ∀ c ∈ arg, s.Lives c i) : (s.enterUser i arg).Placed := by
  have hth := h.threads i
  refine h.setThread ⟨hth.part, hth.batch, fun _ => hphase⟩ Iff.rfl ?_ ?_
  · exact fun w' hw' => h.work i w' (List.mem_append_left _ hw')
  · intro c hc
    exact harg c (Option.some.inj hc)

/-- A thread can be left work for a connection of its own loop. -/
lemma Placed.pushWork (h : s.Placed)
    (hphase : (s.thread i).phase = .tasks ∨ (s.thread i).phase = .handlers)
    (hw : w = .closeCallback c ∨ w = .removeChannel c) (hc : s.Lives c i) :
    (s.pushWork i w).Placed := by
  have hth := h.threads i
  have hat : s.WorkAt i w := by rcases hw with rfl | rfl <;> exact hc
  refine h.setThread ⟨?_, ?_, hth.user⟩ Iff.rfl ?_ (h.user i)
  · intro w' hw'
    rcases List.mem_cons.mp hw' with hw' | hw'
    · rw [hw']
      rcases hw with rfl | rfl <;> exact hphase
    · exact hth.part w' hw'
  · intro t ht
    rcases List.mem_cons.mp ht with ht | ht
    · rcases hw with rfl | rfl <;> cases ht
    · exact hth.batch t ht
  · intro w' hw'
    rcases List.mem_cons.mp hw' with hw' | hw'
    · rw [hw']
      exact hat
    · exact h.work i w' (List.mem_append_left _ hw')

/-- `connections_` says nothing about places. -/
lemma Placed.withConnections (h : s.Placed) (connections_ : Bytes → Option ConnId) :
    Placed { s with connections_ := connections_ } :=
  ⟨h.next, h.loops, h.work, h.user, h.handles, h.kernel, h.threads,
    fun j => ⟨(h.running j).running, (h.running j).stopped⟩⟩

lemma Placed.unmap (h : s.Placed) (name : Bytes) : (s.unmap name).Placed := h.withConnections _

/-- The connection callback on the way down, out of a task or a handler. -/
lemma Placed.callsDown {rest : Work} (h : s.Placed)
    (hphase : (s.thread i).phase = .tasks ∨ (s.thread i).phase = .handlers)
    (hrest : rest = .closeCallback c ∨ rest = .removeChannel c) (hc : s.Lives c i)
    (hdown : s.callsDown s' i c rest) : s'.Placed := by
  obtain ⟨s₁, heffect, hs'⟩ := hdown
  have hc₁ : s₁.Lives c i := heffect.extends.lives hc
  have hthread : s₁.thread = s.thread := by
    obtain ⟨conn, p, -, -, hs₁⟩ := heffect
    rw [hs₁, touch_thread]
  rw [hs']
  refine Placed.enterUser ?_ ?_ ?_
  · refine (h.effect hc.1 heffect).pushWork ?_ hrest hc₁
    rw [hthread]
    exact hphase
  · simp only [TcpServer.pushWork, setThread_thread_self]
    rw [hthread]
    exact hphase
  · intro c' hc'
    rw [Option.mem_def, Option.some.injEq] at hc'
    rw [← hc']
    exact hc₁

/-- The removal of a connection queues `connectDestroyed` in its loop. -/
lemma Placed.removed (h : s.Placed) (hc : c < s.created) (hr : s.removed s' c) : s'.Placed := by
  obtain ⟨s₁, heffect, -, hs'⟩ := hr
  rw [hs']
  refine ((h.effect hc heffect).unmap _).queueInLoop ?_
  exact heffect.extends.lives ⟨hc, rfl⟩

/-- A new connection leaves the others on their loops. -/
lemma extends_withConnection (fd : ℕ) : s.Extends (s.withConnection fd) := by
  refine ⟨Nat.le_succ _, fun c hc => ?_⟩
  simp only [withConnection, Function.update_of_ne (ne_of_lt hc)]

/-- A new connection is on the loop that `allocLoop` has given out. -/
lemma lives_created (fd : ℕ) : (s.withConnection fd).Lives s.created s.nextLoop := by
  refine ⟨Nat.lt_succ_self _, ?_⟩
  simp only [withConnection, Function.update_self, opened]

/-- A connection can be made. -/
lemma Placed.withConnection (h : s.Placed) (fd : ℕ) : (s.withConnection fd).Placed := by
  have hext : s.Extends (s.withConnection fd) := extends_withConnection fd
  refine ⟨?_, ?_, fun j w hw => hext.workAt (h.work j w hw),
    fun j c hu => hext.lives (h.user j c hu),
    fun c hc => Nat.lt_succ_of_lt (h.handles c hc),
    fun j fd c events he => hext.lives (h.kernel j fd c events he), h.threads,
    fun j => ⟨(h.running j).running, (h.running j).stopped⟩⟩
  · rcases h.next with hsize | hnext
    · exact Or.inl hsize
    · right
      show (if s.size_ = 0 then s.next_ else (s.next_ + 1) % s.size_) < s.size_
      rw [if_neg (by omega)]
      exact Nat.mod_lt _ (by omega)
  · intro c hc
    rcases Nat.lt_succ_iff_lt_or_eq.mp hc with hlt | heq
    · rw [hext.2 c hlt]
      exact h.loops c hlt
    · -- `allocLoop` gives out the acceptor's loop or one of the `size_` others
      rw [heq, (lives_created fd).2]
      show (if s.size_ = 0 then 0 else s.next_ + 1) ≤ s.size_
      have := h.next
      split <;> omega

/-- A loop can be started by its own thread. -/
lemma Placed.started (h : s.Placed) (hi : i ≤ s.size_)
    (hphase : (s.thread i).phase = .notStarted) : (s.started i).Placed := by
  have htodo : (s.thread i).todo = [] := (h.threads i).todo_eq_nil (by rw [hphase]; decide)
  have huser : (s.thread i).user = none := (h.threads i).user_eq_none (by rw [hphase]; decide)
  have hthread : ∀ j, (s.started i).thread j =
      if j = i then { s.thread i with phase := .top } else s.thread j := by
    intro j
    unfold TcpServer.started setPhase
    by_cases hj : j = i
    · rw [hj, setThread_thread_self, if_pos rfl]
    · rw [setThread_thread_ne _ _ _ hj, if_neg hj]
  refine ⟨h.next, h.loops, fun j w hw => h.work j w (works_started s i j ▸ hw), ?_, h.handles,
    h.kernel, ?_, ?_⟩
  · intro j c hu
    rw [hthread] at hu
    split at hu
    · rename_i hj
      rw [huser] at hu
      cases hu
    · exact h.user j c hu
  · intro j
    rw [hthread]
    split
    · constructor <;> simp [htodo, huser]
    · exact h.threads j
  · intro j
    by_cases hj : j = i
    · subst hj
      constructor
      · intro _
        -- `settid` and the cleared stop flag
        exact ⟨hi, by simp [TcpServer.started, setPhase, EventLoop.settid],
          by simp [TcpServer.started, setPhase, EventLoop.settid]⟩
      · intro hn
        rw [hthread, if_pos rfl] at hn
        cases hn
    · have hloop : (s.started i).loop j = s.loop j := by
        simp [TcpServer.started, setPhase, hj]
      have hj' := h.running j
      constructor <;> rw [hthread, if_neg hj, hloop]
      · exact hj'.running
      · exact hj'.stopped

/-- The batch is what waited in the queue. -/
lemma Placed.swap (h : s.Placed) (hphase : (s.thread i).phase = .top) : (s.swap i).Placed := by
  have htodo : (s.thread i).todo = [] := (h.threads i).todo_eq_nil (by rw [hphase]; decide)
  have huser : (s.thread i).user = none := (h.threads i).user_eq_none (by rw [hphase]; decide)
  have hthread : ∀ j, (s.swap i).thread j = if j = i then { s.thread i with
      phase := .tasks
      tasks := (s.loop i).pendingTasks_
      todo := (s.loop i).pendingTasks_.map .task } else s.thread j := by
    intro j
    unfold TcpServer.swap EventLoop.swapTasks
    by_cases hj : j = i
    · simp [hj, TcpServer.setThread]
    · simp [hj, TcpServer.setThread]
  refine ⟨h.next, h.loops, ?_, ?_, h.handles, h.kernel, ?_, ?_⟩
  · intro j w hw
    -- batch and queue together are what they were
    rw [works_swap htodo] at hw
    exact h.work j w hw
  · intro j c hu
    rw [hthread] at hu
    split at hu
    · simp only [huser, reduceCtorEq] at hu
    · exact h.user j c hu
  · intro j
    rw [hthread]
    split
    · refine ⟨fun w hw => ?_, fun t ht => ?_, fun hu => absurd huser hu⟩
      · obtain ⟨t, -, rfl⟩ := List.mem_map.mp hw
        rfl
      · obtain ⟨t', ht', heq⟩ := List.mem_map.mp ht
        cases heq
        exact ht'
    · exact h.threads j
  · intro j
    have hj := h.running j
    have hloop : ((s.swap i).loop j).stoplooping_ = (s.loop j).stoplooping_ ∧
        ((s.swap i).loop j).tid_ = (s.loop j).tid_ := by
      unfold TcpServer.swap EventLoop.swapTasks
      by_cases hji : j = i
      · simp [hji]
      · simp [hji]
    constructor
    · intro _
      rw [hloop.1, hloop.2]
      refine hj.running ?_
      rename_i hn
      rw [hthread] at hn
      split at hn
      · rename_i hji
        rw [hji, hphase]
        decide
      · exact hn
    · intro hn
      rw [hloop.1]
      rw [hthread] at hn
      split at hn
      · cases hn
      · exact hj.stopped hn

/-- The program can copy and drop its pointers. -/
lemma Placed.withHandles (h : s.Placed) {handles : List ConnId}
    (hlt : ∀ c ∈ handles, c < s.created) : ({ s with handles := handles } : TcpServer).Placed :=
  ⟨h.next, h.loops, h.work, h.user, hlt, h.kernel, h.threads,
    fun j => ⟨(h.running j).running, (h.running j).stopped⟩⟩

/-- What `poll` reports is about connections of the loop. -/
lemma Placed.poll (h : s.Placed) {active : List Ready} (hallowed : s.allowed (.poll i active)) :
    (s.setThread i { s.thread i with
      phase := .handlers, todo := active.flatMap Ready.work }).Placed := by
  obtain ⟨hphase, -, -, hready⟩ := hallowed
  have huser : (s.thread i).user = none := (h.threads i).user_eq_none (by rw [hphase]; decide)
  have hwork : ∀ w ∈ active.flatMap Ready.work, w.In .handlers ∧ (∀ t, w ≠ .task t) ∧
      s.WorkAt i w := by
    intro w hw
    obtain ⟨r, hr, hw⟩ := List.mem_flatMap.mp hw
    have hr := hready r hr
    cases r with
    | conn c read write =>
      have hc : s.Lives c i := by
        -- what is ready is in the interest list of the loop, with its pointer
        unfold ReadyIn at hr
        simp only at hr
        split at hr
        · rename_i ptr events hepoll
          rw [hr.1] at hepoll
          exact h.kernel i _ c events hepoll
        · exact hr.elim
      simp only [Ready.work, List.mem_append] at hw
      rcases hw with hw | hw
      · split at hw
        · rw [List.mem_singleton.mp hw]
          exact ⟨rfl, fun t => by simp, hc⟩
        · cases hw
      · split at hw
        · rw [List.mem_singleton.mp hw]
          exact ⟨rfl, fun t => by simp, hc⟩
        · cases hw
    | acceptor =>
      rw [List.mem_singleton.mp hw]
      exact ⟨rfl, fun t => by simp, hr⟩
    | other =>
      rw [List.mem_singleton.mp hw]
      exact ⟨rfl, fun t => by simp, trivial⟩
  refine h.setThread ⟨fun w hw => (hwork w hw).1, ?_, fun hu => absurd huser hu⟩ ?_
    (fun w hw => (hwork w hw).2.2) (h.user i)
  · exact fun t ht => absurd rfl ((hwork _ ht).2.1 t)
  · simp [hphase]

/-! ## Threads in user code -/

/-- A pointer that user code has points to a connection. -/
lemma Placed.holds (h : s.Placed) {t : Thread} (hholds : s.Holds t c) : c < s.created := by
  obtain ⟨-, hmem | harg⟩ := hholds
  · exact h.handles c hmem
  · cases t with
    | loop i =>
      have hu : (s.thread i).user = some (some c) := Option.join_eq_some_iff.mp harg
      exact (h.user i c hu).1
    | other n => cases harg

/-- A thread enters a loop that no thread has entered. -/
lemma Placed.start_eq (h : s.Placed) (hphase : (s.thread i).phase = .notStarted) :
    s.start i = .ok (s.started i) := by
  have hstop : (s.loop i).stoplooping_ = true := (h.running i).stopped hphase
  have hthread : { (s.loop i).settid i with stoplooping_ := false }.assertInLoopThread i
      = .ok () :=
    (EventLoop.assertInLoopThread_eq_ok _ _).mpr ((EventLoop.isInLoopThread_iff _ _).mpr ⟨rfl, rfl⟩)
  rw [start, assertThat_pos hstop, except_ok_bind]
  simp only [hthread, except_ok_bind]
  rfl

/-- The only thread that a loop recognises is its own. -/
lemma Placed.thread_eq (h : s.Placed) {t : Thread} {j : ℕ}
    (hin : (s.loop j).isInLoopThread t.tid = true) : t = .loop j := by
  obtain ⟨hstop, htid⟩ := (EventLoop.isInLoopThread_iff _ _).mp hin
  have hstarted : (s.thread j).phase ≠ .notStarted := by
    intro hn
    rw [(h.running j).stopped hn] at hstop
    cases hstop
  rw [((h.running j).running hstarted).2.2] at htid
  cases t with
  | loop i =>
    have hi : (j : ℤ) = i := htid
    rw [Int.natCast_inj.mp hi]
  | other n =>
    have hn : (j : ℤ) = -2 - n := htid
    omega

/-- A loop recognises its own thread whenever that thread is in user code. -/
lemma Placed.inLoop (h : s.Placed) (hphase : (s.thread i).phase ≠ .notStarted) :
    (s.loop i).isInLoopThread i = true :=
  (EventLoop.isInLoopThread_iff _ _).mpr ((h.running i).running hphase).2

/-- A thread in user code is recognised as its loop's. -/
lemma Placed.inLoop_of_user (h : s.Placed) (hu : s.InUser (.loop i)) :
    (s.loop i).isInLoopThread i = true := by
  refine h.inLoop fun hn => ?_
  have := (h.threads i).user hu.2
  rw [hn] at this
  simp at this

/-- A loop thread at work is recognised by its loop. -/
lemma Next.inLoop (hnext : s.Next i w) (hplaced : s.Placed) : (s.loop i).isInLoopThread i = true := by
  refine hplaced.inLoop fun hnot => ?_
  rcases hnext.thread (hplaced.threads i) with hphase | hphase <;> rw [hnot] at hphase <;>
    cases hphase

/-! ## Every step, every run -/

/-- A call of a member leaves everything in its place. -/
lemma Placed.called {a : Action} {t : Thread} (h : s.Placed) (hholds : s.Holds t c)
    (hcalled : s.Called t c a s') : s'.Placed := by
  have hc : s.Lives c (s.conn c).loop_ := ⟨h.holds hholds, rfl⟩
  cases hcalled with
  | sendQueued hout hlength hsend =>
    refine (h.effect hc.1 hsend).queueInLoop ⟨hsend.extends.lives hc, ?_, hlength⟩
    -- the loop's own thread would have been recognised
    intro ht
    rw [ht] at hout hholds
    have hin := h.inLoop_of_user hholds.1
    rw [show (Thread.loop (s.conn c).loop_).tid = ((s.conn c).loop_ : ℤ) from rfl, hin] at hout
    cases hout
  | sendIgnored hin hsend => exact h.effect hc.1 hsend
  | sendAccepted hin hsend haccept =>
    exact (h.effect hc.1 hsend).effect (hsend.extends.lives hc).1 haccept
  | shutdownQueued _ => exact h.queueInLoop hc
  | shutdownIgnored _ => exact h
  | shutdownRun hin hshutdown => exact h.effect hc.1 hshutdown
  | close => exact h.queueInLoop hc
  | closeInNextLoop => exact h.queueInLoop hc

/-- An event of a connection leaves the threads. -/
lemma Effect.thread_eq {e : ConnEvent} (h : s.Effect c e s') : s'.thread = s.thread := by
  obtain ⟨conn, p, -, -, hs'⟩ := h
  rw [hs', touch_thread]

/-- The work of a loop leaves everything in its place. -/
lemma Placed.worked {a : Action} (h : s.Placed)
    (hphase : (s.thread i).phase = .tasks ∨ (s.thread i).phase = .handlers)
    (hw : s.WorkAt i w) (hworked : s.Worked i w a s') : s'.Placed := by
  -- user code is called with a connection of this loop
  have henter : ∀ {s₁ : TcpServer} {e : ConnEvent} {c : ConnId}, s.Lives c i → s.Effect c e s₁ →
      (s₁.enterUser i (some c)).Placed := by
    intro s₁ e c hc heffect
    refine (h.effect hc.1 heffect).enterUser (heffect.thread_eq ▸ hphase) ?_
    intro c' hc'
    rw [← Option.some.inj hc']
    exact heffect.extends.lives hc
  cases hworked with
  | nothing _ _ _ => exact h
  | established heffect => exact henter hw heffect
  | destroyedDown hdown => exact h.callsDown hphase (Or.inr rfl) hw hdown
  | destroyed hgone => exact h.channelRemoved hw.1 hgone
  | removedTask hremoved => exact h.removed hw.1 hremoved
  | removedHere hremoved => exact h.removed hw.1 hremoved
  | removedQueued c => exact h.queueInLoop ⟨hw.1, rfl⟩
  | channelRemoved hgone => exact h.channelRemoved hw.1 hgone
  | writeComplete c =>
    refine h.enterUser hphase fun c' hc' => ?_
    rw [← Option.some.inj hc']
    exact hw
  | accepted haccept => exact h.effect hw.1.1 haccept
  | shutdown hshutdown => exact h.effect hw.1 hshutdown
  | closed hdown => exact h.callsDown hphase (Or.inl rfl) hw hdown
  | again c => exact h.queueInLoop ⟨hw.1, rfl⟩
  | peerClosed hdown => exact h.callsDown hphase (Or.inl rfl) hw hdown
  | read hread => exact henter hw hread
  | written hwrite => exact h.effect hw.1 hwrite
  | writtenAll hwrite =>
    exact (h.effect hw.1 hwrite).queueInLoop (hwrite.extends.lives ⟨hw.1, rfl⟩)
  | userTask => exact h.enterUser hphase fun c' hc' => by cases hc'
  | userHandler => exact h.enterUser hphase fun c' hc' => by cases hc'

/-- Taking work does not end the part of the iteration. -/
lemma Placed.thread_pop (s : TcpServer) (i : ℕ) :
    ((s.pop i).thread i).phase = (s.thread i).phase := by
  rw [TcpServer.pop, setThread_thread_self]

/-- **Every step** leaves threads, tasks and handlers where they can be. -/
theorem Placed.outcome {a : Action} (h : s.Placed) (hallowed : s.allowed a)
    (houtcome : s.Outcome a s') : s'.Placed := by
  cases houtcome with
  | start hi hphase => exact h.started hi hphase
  | swap hphase => exact h.swap hphase
  | endTasks hphase htodo huser =>
    refine h.setThread ⟨?_, ?_, fun hu => absurd huser hu⟩ (by simp [hphase]) ?_ (h.user _)
    all_goals simp [htodo]
  | poll hallowed => exact h.poll hallowed
  | endHandlers hphase htodo huser =>
    refine h.setThread ⟨?_, ?_, fun hu => absurd huser hu⟩ (by simp [hphase]) ?_ (h.user _)
    all_goals simp [htodo]
  | @userReturns i huser =>
    have hth := h.threads i
    refine h.setThread ⟨hth.part, hth.batch, fun hu => absurd rfl hu⟩ Iff.rfl ?_ ?_
    · exact fun w hw => h.work i w (List.mem_append_left _ hw)
    · exact fun c hc => by cases hc
  | @work i w a s' hnext hworked =>
    refine h.pop.worked ?_ ?_ hworked
    · rw [thread_pop]
      exact hnext.thread (h.threads i)
    · exact (h.workAt hnext : s.WorkAt i w)
  | acceptQueued hnext => exact (h.withConnection _).queueInLoop (lives_created _)
  | @acceptHere i fd s₁ hnext hin heffect =>
    have hlives := lives_created (s := s) fd
    refine ((h.withConnection fd).effect hlives.1 heffect).enterUser ?_ ?_
    · rw [heffect.thread_eq]
      exact hnext.thread (h.threads i)
    · intro c hc
      rw [← Option.some.inj hc]
      refine heffect.extends.lives ?_
      -- the acceptor runs `connectEstablished` itself only where it chose its own loop
      have hi : Thread.loop i = .loop s.nextLoop := h.thread_eq hin
      rw [Thread.loop.inj hi]
      exact hlives
  | call hholds hcalled => exact h.called hholds hcalled
  | queueUser => exact h.queueInLoop trivial
  | @retrieve i c len s₁ hretrieve => exact h.effect (h.user i c hallowed.1).1 hretrieve
  | @copyPtr t c hholds =>
    refine h.withHandles fun c' hc' => ?_
    rcases List.mem_cons.mp hc' with hc' | hc'
    · rw [hc']
      exact h.holds hholds
    · exact h.handles c' hc'
  | dropPtr c => exact h.withHandles fun c' hc' => h.handles c' (List.mem_of_mem_erase hc')

lemma placed_initial (size_ : ℕ) (name_ : Bytes) (callback : Bool) :
    (initial size_ name_ callback).Placed where
  next := by
    show size_ = 0 ∨ 0 < size_
    omega
  loops := fun c hc => absurd hc (Nat.not_lt_zero c)
  work := fun i w hw => absurd hw List.not_mem_nil
  user := fun i c hu => by cases hu
  handles := fun c hc => absurd hc List.not_mem_nil
  kernel := fun i fd c events he => by cases he
  threads := fun i => ⟨fun w hw => absurd hw List.not_mem_nil,
    fun t ht => absurd ht List.not_mem_nil, fun hu => absurd rfl hu⟩
  running := fun i => ⟨fun hn => absurd rfl hn, fun _ => rfl⟩

/-- Every step leaves everything in its place. -/
lemma placed_step {a : Action} (h : s.Placed) (hallowed : machine.allowed s a)
    (hexec : machine.exec s a = .ok s') : s'.Placed :=
  h.outcome hallowed (exec_outcome hallowed hexec)

/-- **Every reachable state.** -/
theorem placed_of_run {size_ : ℕ} {name_ : Bytes} {callback : Bool} {as : List Action}
    (h : machine.Run (initial size_ name_ callback) as s) : s.Placed :=
  h.preserves (placed_initial _ _ _)
    fun _ _ _ hplaced hallowed hexec => placed_step hplaced hallowed hexec

/-- Every step of a run starts in such a state. -/
lemma placed_steps {P : TcpServer → Action → Prop} {size_ : ℕ} {name_ : Bytes} {callback : Bool}
    {as : List Action} (h : machine.Run (initial size_ name_ callback) as s)
    (hsteps : machine.AllSteps P (initial size_ name_ callback) as) :
    machine.AllSteps (fun s a => s.Placed ∧ s.allowed a ∧ P s a) (initial size_ name_ callback) as :=
  h.allSteps hsteps (placed_initial _ _ _)
    (fun _ _ _ hplaced _ hallowed hexec => placed_step hplaced hallowed hexec)
    fun _ _ hplaced hP hallowed => ⟨hplaced, hallowed, hP⟩

/-- What `sendInLoop` is called with fits in a string. -/
lemma RunsSendInLoop.length_le {a : Action} {t : Thread} {msg : Bytes}
    (h : s.RunsSendInLoop a c t msg) (hplaced : s.Placed) (hallowed : s.allowed a) :
    msg.length ≤ maxSize := by
  rcases h with ⟨ha, -⟩ | ⟨i, ha⟩
  · rw [ha] at hallowed
    exact hallowed.2
  · rw [ha] at hallowed
    have hat : s.TaskAt i (.sendInLoop c t msg) := hplaced.workAt hallowed
    exact hat.2.2

/-! ## Names -/

/-- A connection is named by its number, which wraps as an `int` does. -/
structure Numbered (s : TcpServer) : Prop where
  next : s.nextConnId_ = toInt (s.created + 1)
  names : ∀ c < s.created, (s.conn c).name_ = connName s.name_ (toInt (c + 1))

/-- A connection is named by its number. -/
structure Named (s : TcpServer) : Prop where
  count : s.created < 2 ^ 31
  next : s.nextConnId_ = toInt (s.created + 1)
  names : ∀ c < s.created, (s.conn c).name_ = connName s.name_ (c + 1 : ℕ)

/-- Two numbers make two names. -/
lemma connName_injective {name_ : Bytes} {m n : ℤ} (h : connName name_ m = connName name_ n) :
    m = n := by
  have htail := List.append_cancel_left h
  rw [List.cons.injEq] at htail
  exact decimalInt_injective htail.2

/-- A number below `2 ^ 31` is an int as it is. -/
lemma toInt_of_lt {n : ℕ} (h : n < 2 ^ 31) : toInt n = n := by
  unfold toInt
  omega

/-- A new connection has the next number. -/
lemma Numbered.withConnection (h : s.Numbered) (fd : ℕ) : (s.withConnection fd).Numbered := by
  refine ⟨?_, fun c hc => ?_⟩
  · show toInt (s.nextConnId_ + 1) = toInt ((s.created + 1 : ℕ) + 1)
    rw [h.next]
    unfold toInt
    omega
  · have hlt : c < s.created + 1 := hc
    by_cases hnew : c = s.created
    · simp only [hnew, TcpServer.withConnection, Function.update_self, opened]
      rw [h.next]
    · simp only [TcpServer.withConnection, Function.update_of_ne hnew]
      exact h.names c (lt_of_le_of_ne (Nat.lt_succ_iff.mp hlt) hnew)

/-- A step in which no connection is made leaves the numbers. -/
lemma Numbered.stays {kind : ConnId → TcpConnection → ConnEvent → Prop} (h : s.Numbered)
    (hstays : s.Stays s' kind) : s'.Numbered := by
  obtain ⟨hcounters, hmoves⟩ := hstays
  simp only [counters, Prod.mk.injEq] at hcounters
  obtain ⟨hcreated, hname, hnext⟩ := hcounters
  refine ⟨by rw [hnext, hcreated]; exact h.next, fun c hc => ?_⟩
  rw [hcreated] at hc
  rw [hname, ← h.names c hc]
  exact (hmoves c).invariant (Q := fun conn => conn.name_ = (s.conn c).name_) rfl
    fun _ _ _ hQ _ hstep => hstep.name_eq.trans hQ

/-- Every action keeps the numbers. -/
lemma Numbered.outcome {a : Action} (h : s.Numbered) (houtcome : s.Outcome a s') :
    s'.Numbered := by
  rcases houtcome.stays with hstays | ⟨i, fd, -, hstays⟩
  · exact h.stays hstays
  · exact (h.withConnection fd).stays hstays

lemma numbered_initial (size_ : ℕ) (name_ : Bytes) (callback : Bool) :
    (initial size_ name_ callback).Numbered where
  next := by
    show (1 : ℤ) = toInt ((0 : ℕ) + 1)
    unfold toInt
    omega
  names := fun c hc => absurd hc (Nat.not_lt_zero c)

/-- No number of few connections has wrapped. -/
lemma Numbered.named (h : s.Numbered) (hcount : s.created < 2 ^ 31) : s.Named := by
  refine ⟨hcount, h.next, fun c hc => ?_⟩
  rw [h.names c hc, ← Nat.cast_succ, toInt_of_lt (by omega)]

lemma Named.numbered (h : s.Named) : s.Numbered := by
  refine ⟨h.next, fun c hc => ?_⟩
  have hcount := h.count
  rw [h.names c hc, ← Nat.cast_succ, toInt_of_lt (by omega)]

/-- Two connections have two names. -/
lemma Named.ne (h : s.Named) {c' : ConnId} (hc : c < s.created) (hc' : c' < s.created)
    (hne : c ≠ c') : (s.conn c).name_ ≠ (s.conn c').name_ := by
  intro heq
  rw [h.names c hc, h.names c' hc'] at heq
  have := connName_injective heq
  omega

/-- A new connection has a name of its own, as long as the counter has not come round. -/
lemma Named.withConnection (h : s.Named) (fd : ℕ) (hfew : s.created + 1 < 2 ^ 31) :
    (s.withConnection fd).Named := (h.numbered.withConnection fd).named hfew

lemma Named.pop (h : s.Named) : (s.pop i).Named := ⟨h.count, h.next, h.names⟩

/-- Every action keeps the names, as long as the counter has not come round. -/
lemma Named.outcome {a : Action} (h : s.Named) (hfew : s.Few a) (houtcome : s.Outcome a s') :
    s'.Named := by
  refine (h.numbered.outcome houtcome).named ?_
  rcases houtcome.stays with ⟨hcounters, -⟩ | ⟨i, fd, ha, hcounters, -⟩
  · rw [show s'.created = s.created from congrArg Prod.fst hcounters]
    exact h.count
  · rw [ha] at hfew
    rw [show s'.created = s.created + 1 from congrArg Prod.fst hcounters]
    exact hfew

lemma named_initial (size_ : ℕ) (name_ : Bytes) (callback : Bool) :
    (initial size_ name_ callback).Named :=
  (numbered_initial size_ name_ callback).named (by show 0 < 2 ^ 31; omega)

end

end TcpServer
end Miniduo
