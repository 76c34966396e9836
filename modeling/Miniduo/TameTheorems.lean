import Miniduo.ChannelTheorems
import Miniduo.Http.HttpServer

/-!
# Servers whose callbacks read, send and close

A program of which loop threads call `send` and `close` in callbacks of the connection, and nothing
else that needs a pointer, makes little use of the server: no connection is half closed, and
`closeInLoop` is the only task that is bound to a raw pointer (`Tame`). What is done for a connection
waits until it is established.
-/

namespace Miniduo

open HttpServer (SessionTask)

/-! ## Connections that no call half closes -/

/-- Nothing can be taken out of a new buffer. -/
lemma Buffer.retrieve_fresh {len : ℕ} {input : Buffer} (h : Buffer.fresh.retrieve len = .ok input) :
    input = .fresh := by
  obtain ⟨_, hlen, h⟩ := except_bind_eq_ok.mp h
  have hzero : len = 0 := Nat.le_zero.mp (assertThat_eq_ok.mp hlen)
  rw [← Except.ok.inj h, hzero]
  rfl

namespace TcpConnection

/-- The connection is not half closed, and is as it was made until it is established. -/
structure Tame (conn : TcpConnection) : Prop where
  state : conn.state_ ≠ .kDisconnecting
  unused : conn.state_ = .kConnecting →
    conn.input_ = .fresh ∧ conn.output_ = .fresh ∧ conn.connChannel_.isWriting = false

end TcpConnection

section
variable {conn conn' : TcpConnection} {e : ConnEvent}

/-- A connection that is established does not become new again. -/
lemma ConnStep.up (h : ConnStep conn e conn') (hup : conn.state_ ≠ .kConnecting) :
    conn'.state_ ≠ .kConnecting := by
  cases h <;> first | exact hup | nofun

/-- Every event keeps a connection tame but a half-close, and a read before it is established. -/
lemma ConnStep.tame (h : ConnStep conn e conn') (htame : conn.Tame) (he : e ≠ .shutdown)
    (hread : ∀ data, e = .read data → conn.state_ ≠ .kConnecting) : conn'.Tame := by
  have hup : conn.state_ ≠ .kConnecting → conn'.state_ ≠ .kDisconnecting → conn'.Tame :=
    fun hup hstate => ⟨hstate, fun hconnecting => absurd hconnecting (h.up hup)⟩
  cases h with
  | send t msg => exact ⟨htame.state, htame.unused⟩
  | accept t hstate happend => exact hup (by rw [hstate]; nofun) htame.state
  | shutdownNow hstate hidle => exact absurd rfl he
  | shutdownLater hstate hwriting => exact absurd rfl he
  -- there is no write interest before a connection is established
  | writePart hwriting hretrieve hleft =>
    refine hup (fun hconnecting => ?_) htame.state
    rw [(htame.unused hconnecting).2.2] at hwriting
    cases hwriting
  | writeAll hwriting hretrieve hdone =>
    refine hup (fun hconnecting => ?_) htame.state
    rw [(htame.unused hconnecting).2.2] at hwriting
    cases hwriting
  | establish i hstate => exact ⟨nofun, nofun⟩
  | close i hstate => exact ⟨nofun, nofun⟩
  | read hread' => exact hup (hread _ rfl) htame.state
  | retrieve hretrieve =>
    refine ⟨htame.state, fun hconnecting => ?_⟩
    obtain ⟨hinput, houtput, hidle⟩ := htame.unused hconnecting
    refine ⟨?_, houtput, hidle⟩
    rw [hinput] at hretrieve
    exact Buffer.retrieve_fresh hretrieve
  | removal => exact ⟨htame.state, htame.unused⟩

end

namespace TcpServer

variable {s s' : TcpServer} {a : Action} {i j : ℕ} {c : ConnId}

/-! ## Threads that enter user code -/

/-- The step calls `msgCallback_`, `writeCompleteCallback_` or `connectionCallback_` on the way up or
on the way down. -/
inductive Calls (s s' : TcpServer) (a : Action) (j : ℕ) (c : ConnId) : Prop
  | message {data : Option Bytes} (ha : a = .handleRead j c data)
  | complete (ha : a = .task j (.writeCompleteCallback c))
  | up (hstate : (s'.conn c).state_ = .kConnected)
  | down (hbefore : (s.conn c).state_ = .kConnected ∨ (s.conn c).state_ = .kDisconnecting)
      (hstate : (s'.conn c).state_ = .kDisconnected)

/-- Loop thread `j` has called a callback. -/
structure Entered (s s' : TcpServer) (a : Action) (j : ℕ) (arg : Option ConnId) : Prop where
  before : (s.thread j).user = none
  after : (s'.thread j).user = some arg
  calls : ∀ c ∈ arg, s.Calls s' a j c

/-- What can become of the user code of a thread. -/
def UserAfter (s s' : TcpServer) (a : Action) (j : ℕ) : Prop :=
  (s'.thread j).user = (s.thread j).user ∨ (a = .userReturns j ∧ (s'.thread j).user = none) ∨
    ∃ arg, s.Entered s' a j arg

lemma Effect.established (h : s.Effect c (.establish i) s') : (s'.conn c).state_ = .kConnected := by
  have hstep := h.step
  generalize s'.conn c = conn at hstep
  cases hstep
  rfl

lemma Effect.closed (h : s.Effect c (.close i) s') :
    ((s.conn c).state_ = .kConnected ∨ (s.conn c).state_ = .kDisconnecting) ∧
      (s'.conn c).state_ = .kDisconnected := by
  have hstep := h.step
  generalize s'.conn c = conn at hstep
  cases hstep with
  | close _ hstate => exact ⟨hstate, rfl⟩

lemma enterUser_thread_ne {arg : Option ConnId} (h : j ≠ i) :
    (s.enterUser i arg).thread j = s.thread j := setThread_thread_ne _ _ _ h

/-- The thread is in user code, with the argument of the callback. -/
lemma enterUser_user {arg : Option ConnId} : ((s.enterUser i arg).thread i).user = some arg := by
  rw [enterUser, setThread_thread_self]

/-- The thread that an effect and a callback belong to. -/
lemma Effect.userAfter {s₁ : TcpServer} {e : ConnEvent} (h : s.Effect c e s₁)
    (huser : (s.thread i).user = none) (hcalls : s.Calls (s₁.enterUser i (some c)) a i c) :
    s.UserAfter (s₁.enterUser i (some c)) a j := by
  by_cases hj : j = i
  · subst hj
    refine Or.inr (Or.inr ⟨some c, huser, enterUser_user, fun c' hc' => ?_⟩)
    cases hc'
    exact hcalls
  · refine Or.inl ?_
    rw [enterUser_thread_ne hj, h.thread_eq]

/-- A close leaves its thread in the connection callback on the way down. -/
lemma callsDown.userAfter {rest : Work} (h : s.callsDown s' i c rest)
    (huser : (s.thread i).user = none) : s.UserAfter s' a j := by
  obtain ⟨s₁, heffect, rfl⟩ := h
  by_cases hj : j = i
  · subst hj
    refine Or.inr (Or.inr ⟨some c, huser, enterUser_user, fun c' hc' => ?_⟩)
    cases hc'
    exact .down heffect.closed.1 heffect.closed.2
  · refine Or.inl ?_
    rw [enterUser_thread_ne hj, pushWork, setThread_thread_ne _ _ _ hj, heffect.thread_eq]

lemma channelRemoved.thread_eq (h : s.channelRemoved s' c) : s'.thread = s.thread := by
  obtain ⟨p, -, rfl⟩ := h
  rfl

lemma removed.thread_eq (h : s.removed s' c) : s'.thread = s.thread := by
  obtain ⟨s₁, heffect, -, rfl⟩ := h
  exact heffect.thread_eq

/-- A piece of work leaves a thread where it was, or its own in a callback. -/
lemma Worked.userAfter {w : Work} (h : s.Worked i w a s') (huser : (s.thread i).user = none) :
    s.UserAfter s' a j := by
  have hsame : ∀ {s₁ : TcpServer}, s₁.thread = s.thread → s.UserAfter s₁ a j :=
    fun hthread => Or.inl (by rw [hthread])
  have henter : ∀ {arg : Option ConnId}, (∀ c ∈ arg, a = .task i (.writeCompleteCallback c)) →
      s.UserAfter (s.enterUser i arg) a j := by
    intro arg harg
    by_cases hj : j = i
    · subst hj
      exact Or.inr (Or.inr ⟨arg, huser, enterUser_user, fun c hc => .complete (harg c hc)⟩)
    · exact Or.inl (by rw [enterUser_thread_ne hj])
  cases h with
  | nothing _ _ _ => exact hsame rfl
  | established heffect =>
    exact heffect.userAfter huser (.up heffect.established)
  | destroyedDown hdown => exact hdown.userAfter huser
  | destroyed hgone => exact hsame hgone.thread_eq
  | removedTask hremoved => exact hsame hremoved.thread_eq
  | removedHere hremoved => exact hsame hremoved.thread_eq
  | removedQueued c => exact hsame rfl
  | channelRemoved hgone => exact hsame hgone.thread_eq
  | writeComplete c =>
    refine henter fun c' hc' => ?_
    cases hc'
    rfl
  | accepted haccept => exact hsame haccept.thread_eq
  | shutdown hshutdown => exact hsame hshutdown.thread_eq
  | closed hdown => exact hdown.userAfter huser
  | again c => exact hsame rfl
  | peerClosed hdown => exact hdown.userAfter huser
  | read hread => exact hread.userAfter huser (.message rfl)
  | written hwrite => exact hsame hwrite.thread_eq
  | writtenAll hwrite => exact hsame hwrite.thread_eq
  | userTask => exact henter nofun
  | userHandler => exact henter nofun

/-- An action leaves a thread where it was, or takes it out of a callback or into one. -/
lemma Outcome.userAfter (h : s.Outcome a s') : s.UserAfter s' a j := by
  have hsame : ∀ {s₁ : TcpServer}, s₁.thread = s.thread → s.UserAfter s₁ a j :=
    fun hthread => Or.inl (by rw [hthread])
  have hthread : ∀ {s₁ : TcpServer} {k : ℕ} {th : LoopThread},
      s₁.thread = Function.update s.thread k th → th.user = (s.thread k).user →
      s.UserAfter s₁ a j := by
    intro s₁ k th hs₁ huser
    refine Or.inl ?_
    rw [hs₁]
    by_cases hj : j = k
    · rw [hj, Function.update_self, huser]
    · rw [Function.update_of_ne hj]
  cases h with
  | start hi hphase => exact hthread rfl rfl
  | swap hphase => exact hthread rfl rfl
  | endTasks => exact hthread rfl rfl
  | poll hallowed => exact hthread rfl rfl
  | endHandlers => exact hthread rfl rfl
  | @userReturns k huser =>
    by_cases hj : j = k
    · subst hj
      exact Or.inr (Or.inl ⟨rfl, by rw [setThread_thread_self]⟩)
    · exact Or.inl (by rw [setThread_thread_ne _ _ _ hj])
  | @work k w a s' hnext hworked =>
    have huser : ((s.pop k).thread k).user = none := by
      rw [TcpServer.pop, setThread_thread_self]
      exact hnext.1
    -- taking the work off the list enters and leaves no callback
    have hpop : ((s.pop k).thread j).user = (s.thread j).user := by
      by_cases hj : j = k
      · rw [hj, huser, hnext.1]
      · rw [TcpServer.pop, setThread_thread_ne _ _ _ hj]
    rcases hworked.userAfter (j := j) huser with hold | hreturns | ⟨arg, hbefore, hafter, hcalls⟩
    · exact Or.inl (hold.trans hpop)
    · exact Or.inr (Or.inl hreturns)
    · refine Or.inr (Or.inr ⟨arg, hpop ▸ hbefore, hafter, fun c hc => ?_⟩)
      cases hcalls c hc with
      | message ha => exact .message ha
      | complete ha => exact .complete ha
      | up hstate => exact .up hstate
      | down hbefore hstate => exact .down hbefore hstate
  | acceptQueued hnext => exact hsame rfl
  | @acceptHere k fd s₁ hnext hin heffect =>
    by_cases hj : j = k
    · subst hj
      refine Or.inr (Or.inr ⟨some s.created, hnext.1, enterUser_user, fun c hc => ?_⟩)
      cases hc
      exact .up heffect.established
    · refine Or.inl ?_
      rw [enterUser_thread_ne hj, heffect.thread_eq]
      rfl
  | call hholds hcalled => exact hsame (by
      cases hcalled with
      | sendQueued _ _ hsend => exact hsend.thread_eq
      | sendIgnored _ hsend => exact hsend.thread_eq
      | sendAccepted _ hsend haccept => exact haccept.thread_eq.trans hsend.thread_eq
      | shutdownRun _ hshutdown => exact hshutdown.thread_eq
      | _ => rfl)
  | queueUser => exact hsame rfl
  | retrieve hretrieve => exact hsame hretrieve.thread_eq
  | copyPtr hholds => exact hsame rfl
  | dropPtr c => exact hsame rfl

end TcpServer

/-! ## Servers on which callbacks only read, send and close -/

/-- A task that a write or a callback of the connection has queued. -/
def Task.session (c : ConnId) : Task → Option SessionTask
  | .writeCompleteCallback c' => if c' = c then some .onWriteComplete else none
  | .closeInLoop c' => if c' = c then some .closeInLoop else none
  | _ => none

/-- The tasks of a connection are its write-complete callback and its `closeInLoop`. -/
lemma Task.session_ne_none {t : Task} {c : ConnId} (h : t.session c ≠ none) :
    t = .writeCompleteCallback c ∨ t = .closeInLoop c := by
  cases t <;> simp_all [Task.session]

namespace TcpServer

variable {s s' : TcpServer} {a : Action} {i : ℕ} {c : ConnId}

/-- Threads call `send` and `close` in loops of their own, and nothing else that needs a pointer. -/
def Action.Tame : Action → Prop
  | .send t _ _ | .close t _ => ∃ i, t = .loop i
  | .shutdown .. | .closeInNextLoop .. | .copyPtr .. | .dropPtr _ => False
  | _ => True

/-- The server with a program of `Action.Tame` calls. -/
structure Tame (s : TcpServer) : Prop where
  conns : ∀ c < s.created, (s.conn c).Tame
  handles : s.handles = []
  raw : ∀ i t, .task t ∈ s.works i → t.raw ≠ none → ∃ c, t = .closeInLoop c
  /-- What is done for a connection is done when it is established. -/
  session : ∀ i c t, .task t ∈ s.works i → t.session c ≠ none → (s.conn c).state_ ≠ .kConnecting
  writes : ∀ i c, .handleWrite c ∈ s.works i → (s.conn c).state_ ≠ .kConnecting
  user : ∀ i c, (s.thread i).user = some (some c) → (s.conn c).state_ ≠ .kConnecting

/-- The next piece of work is waiting. -/
lemma Next.mem_works {w : Work} (h : s.Next i w) : w ∈ s.works i := by
  rw [works_pop_self h]
  exact List.mem_cons_self

/-- Work that takes a connection to another stage finds it in its stage. -/
lemma Sound.fits (h : s.Sound) {w : Work} (hw : w ∈ s.works i) (hcontrol : w.control = some c) :
    ∃ st : Stage, st.work c = some w ∧ st.Fits (s.conn c) := by
  obtain ⟨hplaced, -, stage, hlifecycle⟩ := h
  have hc := hplaced.control_lt hw hcontrol
  have hmem : w ∈ s.controls c i := List.mem_filter.mpr ⟨hw, decide_eq_true hcontrol⟩
  rw [hlifecycle.control c hc i] at hmem
  split at hmem
  · exact ⟨stage c, Option.mem_toList.mp hmem, hlifecycle.fits c hc⟩
  · cases hmem

/-- A connection that is read from is established. -/
lemma Sound.state_of_read (h : s.Sound) (hread : .handleRead c ∈ s.works i) :
    (s.conn c).state_ = .kConnected ∨ (s.conn c).state_ = .kDisconnecting := by
  obtain ⟨st, hst, hfits⟩ := h.fits hread rfl
  obtain rfl := Option.some.inj (Stage.stage_work hst)
  simpa [Stage.states] using hfits.state

/-- A connection that is read from is not new. -/
lemma Sound.up_of_read (h : s.Sound) (hread : .handleRead c ∈ s.works i) :
    (s.conn c).state_ ≠ .kConnecting := by
  rcases h.state_of_read hread with hstate | hstate <;> rw [hstate] <;> nofun

/-- No call and no task half closes a connection. -/
lemma Tame.not_shutdown (h : s.Tame) (ha : a.Tame) (hallowed : s.allowed a) :
    ¬s.RunsShutdownInLoop a c := by
  rintro (⟨t, rfl, -⟩ | ⟨k, rfl⟩)
  · exact ha
  · obtain ⟨c', hc'⟩ := h.raw k _ (Next.mem_works hallowed) nofun
    cases hc'

/-- In user code of its own loop, a thread has the argument of the running callback only. -/
lemma Tame.user_of_holds (h : s.Tame) (hholds : s.Holds (.loop i) c) :
    (s.thread i).user = some (some c) := by
  obtain ⟨-, hmem | harg⟩ := hholds
  · rw [h.handles] at hmem
    cases hmem
  · exact Option.join_eq_some_iff.mp harg

/-- A connection that is established stays so, whatever the server does. -/
lemma Outcome.up (houtcome : s.Outcome a s') (hc : c < s.created)
    (hup : (s.conn c).state_ ≠ .kConnecting) : (s'.conn c).state_ ≠ .kConnecting :=
  (houtcome.conn_steps hc).invariant (Q := fun conn => conn.state_ ≠ .kConnecting) hup
    fun _ _ _ hup _ hstep => hstep.up hup

/-! ## Every step, every run -/

/-- A connection as it is made. -/
lemma tame_opened (s : TcpServer) (fd : ℕ) : (s.opened fd).Tame :=
  ⟨nofun, fun _ => ⟨rfl, rfl, by simp [opened, Channel.isWriting]⟩⟩

/-- What only the program changes. -/
def settings (s : TcpServer) : List ConnId × Bool := (s.handles, s.writeCompleteCallback_)

/-- An event of a connection copies no pointer and changes no callback. -/
lemma Effect.settings_eq {e : ConnEvent} (h : s.Effect c e s') : s'.settings = s.settings := by
  obtain ⟨conn, p, -, -, rfl⟩ := h
  rfl

lemma callsDown.settings_eq {rest : Work} (h : s.callsDown s' i c rest) :
    s'.settings = s.settings := by
  obtain ⟨s₁, heffect, rfl⟩ := h
  exact heffect.settings_eq

lemma channelRemoved.settings_eq (h : s.channelRemoved s' c) : s'.settings = s.settings := by
  obtain ⟨p, -, rfl⟩ := h
  rfl

lemma removed.settings_eq (h : s.removed s' c) : s'.settings = s.settings := by
  obtain ⟨s₁, heffect, -, rfl⟩ := h
  exact heffect.settings_eq

/-- The loops copy no pointer and change no callback. -/
lemma Worked.settings_eq {w : Work} (h : s.Worked i w a s') : s'.settings = s.settings := by
  cases h with
  | established heffect => exact heffect.settings_eq
  | destroyedDown hdown => exact hdown.settings_eq
  | destroyed hgone => exact hgone.settings_eq
  | removedTask hremoved => exact hremoved.settings_eq
  | removedHere hremoved => exact hremoved.settings_eq
  | channelRemoved hgone => exact hgone.settings_eq
  | accepted haccept => exact haccept.settings_eq
  | shutdown hshutdown => exact hshutdown.settings_eq
  | closed hdown => exact hdown.settings_eq
  | peerClosed hdown => exact hdown.settings_eq
  | read hread => exact hread.settings_eq
  | written hwrite => exact hwrite.settings_eq
  | writtenAll hwrite => exact hwrite.settings_eq
  | _ => rfl

lemma Called.settings_eq {t : Thread} (h : s.Called t c a s') : s'.settings = s.settings := by
  cases h with
  | sendQueued _ _ hsend => exact hsend.settings_eq
  | sendIgnored _ hsend => exact hsend.settings_eq
  | sendAccepted _ hsend haccept => exact haccept.settings_eq.trans hsend.settings_eq
  | shutdownRun _ hshutdown => exact hshutdown.settings_eq
  | _ => rfl

/-- A program of `Action.Tame` calls copies no pointer and changes no callback. -/
lemma Outcome.settings_eq (h : s.Outcome a s') (ha : a.Tame) : s'.settings = s.settings := by
  cases h with
  | work hnext hworked => exact hworked.settings_eq
  | acceptHere hnext hin heffect => exact heffect.settings_eq
  | call hholds hcalled => exact hcalled.settings_eq
  | retrieve hretrieve => exact hretrieve.settings_eq
  | copyPtr hholds => exact ha.elim
  | dropPtr c => exact ha.elim
  | _ => rfl

/-- The connections of before are there, on their loops. -/
lemma Outcome.extends (h : s.Outcome a s') : s.Extends s' :=
  ⟨h.created_le, fun c hc => (h.conn_steps hc).invariant (Q := fun conn =>
    conn.loop_ = (s.conn c).loop_) rfl fun _ _ _ heq _ hstep => hstep.loop_eq.trans heq⟩

/-- The connection that a task of it waits for exists. -/
lemma Placed.session_lives (h : s.Placed) {t : Task} (ht : .task t ∈ s.works i)
    (hsession : t.session c ≠ none) : s.Lives c i := by
  rcases Task.session_ne_none hsession with rfl | rfl <;> exact h.work i _ ht

section
variable (h : s.Tame) (hattended : s.Attended) (ha : a.Tame) (hallowed : s.allowed a)
  (houtcome : s.Outcome a s')
include h hattended ha hallowed houtcome

/-- The events that such a program causes keep every connection tame. -/
lemma Tame.conn_step {conn conn' : TcpConnection} {e : ConnEvent} (htame : conn.Tame)
    (hcauses : s.Causes a c conn e) (hstep : ConnStep conn e conn') : conn'.Tame := by
  refine hstep.tame htame (fun he => ?_) fun data he => ?_
  · subst he
    exact h.not_shutdown ha hallowed hcauses.1
  · subst he
    obtain ⟨⟨i, rfl⟩, rfl⟩ := hcauses
    exact hattended.sound.up_of_read hallowed.1.mem_works

/-- The connections of before and the new one are tame after a step. -/
lemma Tame.conns_step : ∀ c < s'.created, (s'.conn c).Tame := by
  intro c hc
  by_cases hold : c < s.created
  · exact (houtcome.conn_steps hold).invariant (h.conns c hold) fun _ _ _ htame hcauses hstep =>
      h.conn_step hattended ha hallowed houtcome htame hcauses hstep
  · obtain ⟨fd, hsteps⟩ := houtcome.new_steps hold hc
    exact hsteps.invariant (tame_opened s fd) fun _ _ _ htame hcauses hstep =>
      h.conn_step hattended ha hallowed houtcome htame hcauses hstep

/-- `send` is called in the loop of the connection, so it queues nothing. -/
lemma Tame.raw_step : ∀ i t, .task t ∈ s'.works i → t.raw ≠ none → ∃ c, t = .closeInLoop c := by
  have hplaced := hattended.sound.placed
  intro i t ht hraw
  rcases houtcome.brings hplaced i _ ht with hold | hadds
  · exact h.raw i t hold hraw
  · cases hadds with
    -- queued only outside the loop of the connection, where no callback of it runs
    | @send t c msg =>
      obtain ⟨j, rfl⟩ := ha
      have hlives := houtcome.extends.lives (hplaced.user j c (h.user_of_holds hallowed.1))
      obtain ⟨hat, hne, -⟩ := (hplaced.outcome hallowed houtcome).work i _ ht
      exact absurd (congrArg Thread.loop (hlives.2.symm.trans hat.2)) hne
    | close => exact ⟨_, rfl⟩
    | again => exact ⟨_, rfl⟩
    | shutdown => exact ha.elim
    | closeInNextLoop => exact ha.elim
    | poll hw =>
      obtain ⟨r, -, hr⟩ := List.mem_flatMap.mp hw
      cases r <;> simp [Ready.work] at hr
    | _ => exact absurd rfl hraw

/-- A connection's tasks are queued by a write or a call of it, so it is established. -/
lemma Tame.session_step : ∀ i c t, .task t ∈ s'.works i → t.session c ≠ none →
    (s'.conn c).state_ ≠ .kConnecting := by
  have hplaced := hattended.sound.placed
  intro i c t ht hsession
  rcases houtcome.brings hplaced i _ ht with hold | hadds
  · exact houtcome.up (hplaced.session_lives hold hsession).1 (h.session i c t hold hsession)
  · have hup : ∀ c', c' < s.created → (s.conn c').state_ ≠ .kConnecting →
        (t = .writeCompleteCallback c' ∨ t = .closeInLoop c') →
        (s'.conn c).state_ ≠ .kConnecting := by
      intro c' hc' hup ht
      have hsame : c' = c := by
        rcases ht with rfl | rfl <;> by_contra hne <;> simp [Task.session, hne] at hsession
      subst hsame
      exact houtcome.up hc' hup
    cases hadds with
    | @written j c' written =>
      have hw : .handleWrite c' ∈ s.works j := hallowed.1.mem_works
      have hlives : s.Lives c' j := hplaced.work j _ hw
      exact hup c' hlives.1 (h.writes j c' hw) (Or.inl rfl)
    -- `closeInNextLoop` is not among the tasks that wait
    | @again j c' =>
      obtain ⟨c'', hc''⟩ := h.raw j _ (Next.mem_works hallowed) nofun
      cases hc''
    | @close t c' =>
      obtain ⟨j, rfl⟩ := ha
      have huser := h.user_of_holds hallowed
      exact hup c' (hplaced.user j c' huser).1 (h.user j c' huser) (Or.inr rfl)
    | poll hw =>
      obtain ⟨r, -, hr⟩ := List.mem_flatMap.mp hw
      cases r <;> simp [Ready.work] at hr
    | _ => exact absurd rfl hsession

/-- Only `poll` leaves a write handler to run, and it reports established connections. -/
lemma Tame.writes_step : ∀ i c, .handleWrite c ∈ s'.works i → (s'.conn c).state_ ≠ .kConnecting := by
  have hplaced := hattended.sound.placed
  intro i c hw
  rcases houtcome.brings hplaced i _ hw with hold | hadds
  · have hlives : s.Lives c i := hplaced.work i _ hold
    exact houtcome.up hlives.1 (h.writes i c hold)
  · cases hadds with
    | poll hw =>
      obtain ⟨stage, hlifecycle⟩ := hattended.sound.lifecycle
      obtain ⟨hc, reading, hst⟩ := hlifecycle.up_of_poll hplaced hallowed hw
      refine houtcome.up hc fun hstate => ?_
      have hmem := (hlifecycle.fits c hc).state
      rw [hst, hstate] at hmem
      simp [Stage.states] at hmem

omit ha in
/-- A callback is called on a connection that is established or has just been. -/
lemma Tame.user_step : ∀ i c, (s'.thread i).user = some (some c) →
    (s'.conn c).state_ ≠ .kConnecting := by
  have hplaced := hattended.sound.placed
  intro i c huser
  rcases houtcome.userAfter (j := i) with hold | ⟨-, hnone⟩ | ⟨arg, -, hafter, hcalls⟩
  · rw [hold] at huser
    exact houtcome.up (hplaced.user i c huser).1 (h.user i c huser)
  · rw [hnone] at huser
    cases huser
  · rw [hafter] at huser
    cases huser
    cases hcalls c rfl with
    | message ha =>
      rw [ha] at hallowed
      have hread := hallowed.1.mem_works
      have hlives : s.Lives c i := hplaced.work i _ hread
      exact houtcome.up hlives.1 (hattended.sound.up_of_read hread)
    | complete ha =>
      rw [ha] at hallowed
      have ht := Next.mem_works hallowed
      have hsession : (Task.writeCompleteCallback c).session c ≠ none := by simp [Task.session]
      exact houtcome.up (hplaced.session_lives ht hsession).1 (h.session i c _ ht hsession)
    -- `connectionCallback_`, on the way up and on the way down
    | up hstate =>
      rw [hstate]
      decide
    | down _ hstate =>
      rw [hstate]
      decide

/-- Every step of such a program keeps the server tame. -/
lemma Tame.step : s'.Tame where
  conns := h.conns_step hattended ha hallowed houtcome
  handles := (congrArg Prod.fst (houtcome.settings_eq ha)).trans h.handles
  raw := h.raw_step hattended ha hallowed houtcome
  session := h.session_step hattended ha hallowed houtcome
  writes := h.writes_step hattended ha hallowed houtcome
  user := h.user_step hattended hallowed houtcome

end

/-- At the start there is no connection, no task and no pointer. -/
lemma tame_initial (size_ : ℕ) (name_ : Bytes) (callback : Bool) :
    (initial size_ name_ callback).Tame where
  conns c hc := absurd hc (Nat.not_lt_zero c)
  handles := rfl
  raw _ _ ht := nomatch ht
  session _ _ _ ht := nomatch ht
  writes _ _ hw := nomatch hw
  user _ _ huser := nomatch huser

/-! ## Established connections -/

/-- The connection is established, or was. -/
def Up (s : TcpServer) (c : ConnId) : Prop := c < s.created ∧ (s.conn c).state_ ≠ .kConnecting

instance (s : TcpServer) (c : ConnId) : Decidable (s.Up c) := inferInstanceAs (Decidable (_ ∧ _))

/-- Nothing half closes a connection. -/
lemma Tame.state_of_up (h : s.Tame) (hup : s.Up c) :
    (s.conn c).state_ = .kConnected ∨ (s.conn c).state_ = .kDisconnected := by
  have hstate := (h.conns c hup.1).state
  have hne := hup.2
  cases hs : (s.conn c).state_ <;> simp_all

/-- A callback runs until it returns. -/
lemma Outcome.user_kept {arg : Option ConnId} (h : s.Outcome a s') (ha : a ≠ .userReturns i)
    (huser : (s.thread i).user = some arg) : (s'.thread i).user = some arg := by
  rcases h.userAfter (j := i) with hsame | ⟨hreturns, -⟩ | ⟨arg', hbefore, -, -⟩
  · exact hsame.trans huser
  · exact absurd hreturns ha
  · rw [huser] at hbefore
    cases hbefore

/-- Established connections stay established. -/
lemma Up.outcome (hup : s.Up c) (h : s.Outcome a s') : s'.Up c :=
  ⟨lt_of_lt_of_le hup.1 h.created_le, h.up hup.1 hup.2⟩

section
variable (hplaced : s.Placed)
include hplaced

/-- A connection whose read handler is next is established. -/
lemma Sound.up_read (h : s.Sound) (hnext : s.Next i (.handleRead c)) : s.Up c :=
  have hlives : s.Lives c i := hplaced.workAt hnext
  ⟨hlives.1, h.up_of_read hnext.mem_works⟩

lemma Tame.up_write (h : s.Tame) (hnext : s.Next i (.handleWrite c)) : s.Up c :=
  have hlives : s.Lives c i := hplaced.workAt hnext
  ⟨hlives.1, h.writes i c hnext.mem_works⟩

lemma Tame.up_task {t : Task} (h : s.Tame) (hnext : s.Next i (.task t))
    (ht : t.session c ≠ none) : s.Up c :=
  ⟨(hplaced.session_lives hnext.mem_works ht).1, h.session i c t hnext.mem_works ht⟩

lemma Tame.up_user (h : s.Tame) (huser : (s.thread i).user = some (some c)) : s.Up c :=
  ⟨(hplaced.user i c huser).1, h.user i c huser⟩

end

/-- A read handler that has read bytes leaves its thread in `msgCallback_`. -/
lemma handleRead_user {data : Bytes} (hdata : data ≠ [])
    (h : s.handleRead i c (some data) = .ok s') : (s'.thread i).user = some (some c) := by
  cases data with
  | nil => exact absurd rfl hdata
  | cons x data =>
    obtain ⟨input, -, h⟩ := except_bind_eq_ok.mp h
    rw [← Except.ok.inj h]
    exact enterUser_user

end TcpServer
end Miniduo
