import Miniduo.ServingTheorems

/-!
# The server, seen from one connection

Other connections, other loops and the steps between the calls of a callback do not show in a
conversation: every run of the server is matched by a run of `Conversation.machine`, in which a
callback runs in one step (`conversation_simulation`). When no callback of the connection is running,
the conversation is what the server holds of it.
-/

namespace Miniduo

variable {χ ρ ω : Type}

namespace Conversation

/-- The conversation with a context, and with other bytes on the socket and from it. -/
def under (s : Conversation Unit) (context : χ) (socket received : Bytes) : Conversation χ :=
  { s with context := context, socket := socket, received := received }

/-- Each of the calls meets the condition where it is made. -/
def Keeps (P : Conversation χ → Call → Prop) : Conversation χ → List Call → Prop
  | _, [] => True
  | s, call :: rest => P s call ∧ ∀ s', s.call call = .ok s' → Keeps P s' rest

/-- The calls that the callback of an event makes meet the condition. -/
def Meets (callbacks : Callbacks χ ρ ω) (P : Conversation χ → Call → Prop) (s : Conversation χ)
    (e : Event ρ ω) : Prop :=
  ∀ s' calls, s.enter callbacks e = .ok (s', calls) → s'.Keeps P calls

variable {s s' : Conversation Unit}

/-- Calls other than `sendfile` do not depend on the context or the socket. -/
lemma call_under {x : Call} (h : s.call x = .ok s') (hx : ∀ bytes, x ≠ .sendfile bytes)
    (context : χ) (socket received : Bytes) :
    (s.under context socket received).call x = .ok (s'.under context socket received) := by
  cases x with
  | retrieve len =>
    obtain ⟨input, hretrieve, h⟩ := except_bind_eq_ok.mp h
    have hsame : (s.under context socket received).input_.retrieve len = .ok input := hretrieve
    rw [call, hsame, ← Except.ok.inj h]
    rfl
  | send msg =>
    rw [call] at h ⊢
    split at h
    · rename_i hconnected
      obtain ⟨output, happend, h⟩ := except_bind_eq_ok.mp h
      have hsame : (s.under context socket received).output_.append msg = .ok output := happend
      have hconnected : (s.under context socket received).connected = true := hconnected
      rw [if_pos hconnected, hsame, ← Except.ok.inj h]
      rfl
    · rename_i hconnected
      have hconnected : ¬(s.under context socket received).connected = true := hconnected
      rw [if_neg hconnected, ← Except.ok.inj h]
      rfl
  | close =>
    rw [← Except.ok.inj h]
    rfl
  | sendfile bytes => exact absurd rfl (hx bytes)

/-- `handleWrite` puts the same bytes on any socket. -/
lemma handleWrite_under {completes : Bool} {written : Option ℕ}
    (h : s.handleWrite completes written = .ok s') (context : χ) (socket received : Bytes) :
    (s.under context socket received).handleWrite completes written =
      .ok (s'.under context (socket ++ s'.socket.drop s.socket.length) received) := by
  have hsame : (s.under context socket received).isWriting = s.isWriting ∧
      (s.under context socket received).output_ = s.output_ := ⟨rfl, rfl⟩
  have hnothing : s.under context (socket ++ s.socket.drop s.socket.length) received =
      s.under context socket received := by
    rw [List.drop_length, List.append_nil]
  rw [handleWrite, hsame.1, hsame.2]
  unfold handleWrite at h
  split at h
  · rename_i hwriting
    rw [if_pos hwriting]
    cases hn : (if s.output_.readableBytes > 0 then written else some 0) with
    | none =>
      simp only [hn] at h ⊢
      rw [← Except.ok.inj h, hnothing]
    | some n =>
      simp only [hn] at h ⊢
      obtain ⟨output, hretrieve, h⟩ := except_bind_eq_ok.mp h
      simp only [hretrieve, except_ok_bind]
      split at h
      · rename_i hdone
        rw [if_pos hdone, ← Except.ok.inj h]
        simp [under, pure, Except.pure]
      · rename_i hleft
        rw [if_neg hleft, ← Except.ok.inj h]
        simp [under, pure, Except.pure]
  · rename_i hidle
    rw [if_neg hidle, ← Except.ok.inj h, hnothing]

/-- One more call behind those that have been made. -/
lemma calls_concat {s s₁ s' : Conversation χ} {done : List Call} {x : Call}
    (hdone : s.calls done = .ok s₁) (hx : s₁.call x = .ok s') : s.calls (done ++ [x]) = .ok s' := by
  induction done generalizing s with
  | nil =>
    rw [← Except.ok.inj hdone] at hx
    rw [List.nil_append, calls, hx]
    rfl
  | cons y rest ih =>
    obtain ⟨s₂, hy, hrest⟩ := except_bind_eq_ok.mp hdone
    rw [List.cons_append, calls, hy, except_ok_bind, ih hrest]

/-- The condition holds of one more call. -/
lemma keeps_concat {P : Conversation χ → Call → Prop} {s s₁ : Conversation χ} {done : List Call}
    {x : Call} (hkeeps : s.Keeps P done) (hdone : s.calls done = .ok s₁) (hx : P s₁ x) :
    s.Keeps P (done ++ [x]) := by
  induction done generalizing s with
  | nil =>
    obtain rfl := Except.ok.inj hdone
    exact ⟨hx, fun _ _ => trivial⟩
  | cons y rest ih =>
    obtain ⟨s₂, hy, hrest⟩ := except_bind_eq_ok.mp hdone
    refine ⟨hkeeps.1, fun s₃ h₃ => ?_⟩
    obtain rfl := Except.ok.inj (hy.symm.trans h₃)
    exact ih (hkeeps.2 _ hy) hrest

end Conversation

namespace Serving

/-- What the server holds of the connection. -/
def view (s : Serving χ) (c : ConnId) : Conversation χ :=
  (s.tcp.face c).under (s.context c) (s.socket c) (s.received c)

/-- The calls that a running callback of the connection has still to make. -/
def rest (s : Serving χ) (c : ConnId) : List Call :=
  if (s.tcp.thread (s.tcp.conn c).loop_).user = some (some c) then s.script (s.tcp.conn c).loop_
  else []

/-- The calls that the callbacks of the connection make meet the condition. -/
def CallsMeet (P : Conversation χ → Call → Prop) (c : ConnId) (s : Serving χ) : Action ρ ω → Prop
  | .call _ c' x => c' = c → P (s.view c) x
  | _ => True

instance (P : Conversation χ → Call → Prop) [∀ s x, Decidable (P s x)] (c : ConnId)
    (s : Serving χ) : ∀ a : Action ρ ω, Decidable (s.CallsMeet P c a)
  | .call .. => inferInstanceAs (Decidable (_ → _))
  | .tcp _ | .msgCallback .. | .writeCompleteCallback .. => isTrue trivial

/-- A condition that holds of all calls. -/
lemma CallsMeet.of_forall {P : Conversation χ → Call → Prop} {c : ConnId} {s : Serving χ}
    {a : Action ρ ω} (h : ∀ s x, P s x) : s.CallsMeet P c a := by
  cases a with
  | call i c' x => exact fun _ => h _ x
  | _ => trivial

/-- The conversation of a connection. A callback that is running has not begun in it. -/
inductive Shows (callbacks : Callbacks χ ρ ω) (P : Conversation χ → Call → Prop) (s : Serving χ)
    (c : ConnId) : Conversation χ → Prop
  | unborn (hdown : ¬s.tcp.Up c) : Shows callbacks P s c (Conversation.initial callbacks)
  | idle (hup : s.tcp.Up c) (hrest : s.rest c = []) : Shows callbacks P s c (s.view c)
  | calling {t t₁ : Conversation χ} {e : Conversation.Event ρ ω} {done : List Call}
      (hup : s.tcp.Up c) (hallowed : t.allowed callbacks e)
      (henter : t.enter callbacks e = .ok (t₁, done ++ s.rest c))
      (hcalls : t₁.calls done = .ok (s.view c)) (hkeeps : t₁.Keeps P done)
      (hrest : s.rest c ≠ []) : Shows callbacks P s c t

variable {callbacks : Callbacks χ ρ ω} {P : Conversation χ → Call → Prop} {s s' : Serving χ}
  {c c' : ConnId} {t : Conversation χ}

/-- Between callbacks the conversation is what the server holds. -/
lemma Shows.eq_view (h : s.Shows callbacks P c t) (hup : s.tcp.Up c) (hrest : s.rest c = []) :
    t = s.view c := by
  cases h with
  | unborn hdown => exact absurd hup hdown
  | idle => rfl
  | calling _ _ _ _ _ hne => exact absurd hrest hne

/-- Nothing of the connection changes. -/
lemma Shows.quiet (h : s.Shows callbacks P c t) (hview : s'.view c = s.view c)
    (hrest : s'.rest c = s.rest c) (hup : s'.tcp.Up c ↔ s.tcp.Up c) : s'.Shows callbacks P c t := by
  cases h with
  | unborn hdown => exact .unborn fun h => hdown (hup.mp h)
  | idle h hnil => exact hview ▸ .idle (hup.mpr h) (hrest.trans hnil)
  | calling h hallowed henter hcalls hkeeps hne =>
    exact .calling (hup.mpr h) hallowed (hrest ▸ henter) (hview ▸ hcalls) hkeeps (hrest ▸ hne)

/-- An event of the conversation, up to the first call of its callback. -/
lemma matches_event {e : Conversation.Event ρ ω} (hup : s'.tcp.Up c)
    (hallowed : t.allowed callbacks e)
    (henter : t.enter callbacks e = .ok (s'.view c, s'.rest c)) :
    (Conversation.machine callbacks).Matches (Conversation.Meets callbacks P)
      (s'.Shows callbacks P c) t := by
  by_cases hrest : s'.rest c = []
  · rw [hrest] at henter
    refine .step hallowed ?_ (fun t₁ calls h => ?_) (.idle hup hrest)
    · show Conversation.exec callbacks t e = _
      rw [Conversation.exec, henter]
      rfl
    · rw [henter] at h
      obtain ⟨-, rfl⟩ := Prod.mk.inj (Except.ok.inj h)
      trivial
  · have henter : t.enter callbacks e = .ok (s'.view c, [] ++ s'.rest c) := henter
    exact .stay (.calling hup hallowed henter rfl trivial hrest)

/-- The next call of a callback that is running; behind the last one the event has happened. -/
lemma Shows.call {x : Call} (h : s.Shows callbacks P c t) (hup : s.tcp.Up c) (hup' : s'.tcp.Up c)
    (hrest : s.rest c = x :: s'.rest c) (hcall : (s.view c).call x = .ok (s'.view c))
    (hx : P (s.view c) x) :
    (Conversation.machine callbacks).Matches (Conversation.Meets callbacks P)
      (s'.Shows callbacks P c) t := by
  cases h with
  | unborn hdown => exact absurd hup hdown
  | idle _ hnil =>
    rw [hrest] at hnil
    cases hnil
  | @calling _ t₁ e done _ hallowed henter hcalls hkeeps _ =>
    have hcalls' : t₁.calls (done ++ [x]) = .ok (s'.view c) := Conversation.calls_concat hcalls hcall
    have hkeeps' : t₁.Keeps P (done ++ [x]) := Conversation.keeps_concat hkeeps hcalls hx
    rw [hrest, List.append_cons] at henter
    by_cases hnil : s'.rest c = []
    · rw [hnil, List.append_nil] at henter
      refine .step hallowed ?_ (fun t₂ calls h => ?_) (.idle hup' hnil)
      · show Conversation.exec callbacks t e = _
        rw [Conversation.exec, henter]
        exact hcalls'
      · rw [henter] at h
        obtain ⟨rfl, rfl⟩ := Prod.mk.inj (Except.ok.inj h)
        exact hkeeps'
    · exact .stay (.calling hup' hallowed henter hcalls' hkeeps' hnil)

/-! ## Calls that are left -/

/-- A thread in no callback of the connection has no call of it left. -/
lemma rest_eq_nil (huser : (s.tcp.thread (s.tcp.conn c).loop_).user ≠ some (some c)) :
    s.rest c = [] := if_neg huser

/-- A thread in no callback has no call left at all. -/
lemma Good.rest_of_idle (h : s.Good callbacks) {i : ℕ} (huser : (s.tcp.thread i).user = none)
    (hloop : (s.tcp.conn c).loop_ = i) : s.rest c = [] ∧ s.script i = [] := by
  refine ⟨rest_eq_nil (by rw [hloop, huser]; nofun), ?_⟩
  by_contra hne
  obtain ⟨c', hc'⟩ := h.scripts i hne
  rw [huser] at hc'
  cases hc'

/-- A step that does not touch the script of the loop leaves the calls of the connection. -/
lemma Good.rest_kept (h : s.Good callbacks) {b : TcpServer.Action} (hc : c < s.tcp.created)
    (houtcome : s.tcp.Outcome b s'.tcp)
    (hreturns : ∀ i, b = .userReturns i → s.script i = [])
    (hscript : s'.script (s.tcp.conn c).loop_ = s.script (s.tcp.conn c).loop_) :
    s'.rest c = s.rest c := by
  have hloop : (s'.tcp.conn c).loop_ = (s.tcp.conn c).loop_ := houtcome.extends.2 c hc
  rw [rest, rest, hloop, hscript]
  rcases houtcome.userAfter (j := (s.tcp.conn c).loop_) with hsame | ⟨hb, -⟩ | ⟨arg, hentered⟩
  · rw [hsame]
  · rw [hreturns _ hb, ite_self, ite_self]
  · rw [(h.rest_of_idle hentered.before rfl).2, ite_self, ite_self]

/-! ## Steps that do not concern the connection -/

section
variable {a : Action ρ ω} {b : TcpServer.Action} (h : s.Good callbacks)
  (houtcome : s.tcp.Outcome b s'.tcp)
include h houtcome

/-- A step that does not concern the connection shows it as it was. -/
lemma Good.quiet (hc : c < s.tcp.created) (hnot : ¬s.tcp.Concerns c b)
    (hcontext : s'.context c = s.context c) (hsocket : s'.socket c = s.socket c)
    (hreceived : s'.received c = s.received c)
    (hrest : s'.rest c = s.rest c) (hshows : s.Shows callbacks P c t) : s'.Shows callbacks P c t := by
  have hlook := houtcome.look_eq h.attended.sound hc hnot
  have hstate : (s'.tcp.conn c).state_ = (s.tcp.conn c).state_ := congrArg Prod.fst hlook
  refine hshows.quiet ?_ hrest ⟨fun hup => ⟨hc, hstate ▸ hup.2⟩, fun hup => hup.outcome houtcome⟩
  rw [view, view, TcpServer.face_of_look hlook, hcontext, hsocket, hreceived]

end

/-- The socket changes with writes of the connection only. -/
lemma afterWrite_eq {tcp : TcpServer} {b : TcpServer.Action} (hnot : ¬s.tcp.Concerns c b) :
    s.afterWrite tcp b c = s.socket c := by
  cases b with
  | handleWrite i c' written => exact Function.update_of_ne (fun hc => hnot hc.symm) ..
  | _ => rfl

/-- A step of the server that is about something else. -/
lemma Good.quiet_tcp (h : s.Good callbacks) {b : TcpServer.Action} (hc : c < s.tcp.created)
    (hallowed : (machine callbacks).allowed s (.tcp b))
    (hexec : (machine callbacks).exec s (.tcp b) = .ok s') (hnot : ¬s.tcp.Concerns c b)
    (hshows : s.Shows callbacks P c t) : s'.Shows callbacks P c t := by
  have houtcome := server_outcome hallowed hexec rfl
  obtain ⟨tcp, -, rfl⟩ := step_ok hexec
  refine h.quiet houtcome hc hnot rfl (afterWrite_eq hnot) rfl ?_ hshows
  refine h.rest_kept hc houtcome (fun i hb => ?_) rfl
  subst hb
  exact hallowed.2

/-- The loop thread is in a callback of another connection before and after. -/
lemma rest_other {i : ℕ} (hne : c ≠ c') (hloop : (s.tcp.conn c).loop_ = i)
    (huser : (s.tcp.thread i).user = none ∨ (s.tcp.thread i).user = some (some c')) :
    s.rest c = [] := by
  refine rest_eq_nil fun hc => ?_
  rw [hloop] at hc
  rcases huser with huser | huser
  · rw [huser] at hc
    cases hc
  · rw [huser, Option.some.injEq, Option.some.injEq] at hc
    exact hne hc.symm

/-- A callback of another connection begins or goes on in loop thread `i`. -/
lemma Good.rest_elsewhere (h : s.Good callbacks) {b : TcpServer.Action} {i : ℕ}
    (hc : c < s.tcp.created) (hne : c ≠ c') (houtcome : s.tcp.Outcome b s'.tcp)
    (hreturns : ∀ j, b ≠ .userReturns j)
    (hbefore : (s.tcp.thread i).user = none ∨ (s.tcp.thread i).user = some (some c'))
    (hafter : (s'.tcp.thread i).user = some (some c'))
    (hscript : ∀ j, j ≠ i → s'.script j = s.script j) : s'.rest c = s.rest c := by
  by_cases hloop : (s.tcp.conn c).loop_ = i
  · rw [rest_other hne hloop hbefore,
      rest_other hne ((houtcome.extends.2 c hc).trans hloop) (Or.inr hafter)]
  · exact h.rest_kept hc houtcome (fun j hb => absurd hb (hreturns j)) (hscript _ hloop)

/-- A callback of another connection does not concern this one. -/
lemma Good.quiet_msgCallback (h : s.Good callbacks) {i : ℕ} {data : Bytes} {reply : ρ}
    (hc : c < s.tcp.created) (hne : c ≠ c')
    (hallowed : (machine callbacks).allowed s (.msgCallback i c' data reply))
    (hexec : (machine callbacks).exec s (.msgCallback i c' data reply) = .ok s')
    (hshows : s.Shows callbacks P c t) : s'.Shows callbacks P c t := by
  have houtcome := server_outcome hallowed hexec rfl
  obtain ⟨tcp, context, calls, hread, -, rfl⟩ := msgCallback_ok hexec
  have hread : (s.tcp.pop i).handleRead i c' (some data) = .ok tcp := hread
  refine h.quiet houtcome hc (fun hc => hne hc.symm) (Function.update_of_ne hne ..) rfl
    (Function.update_of_ne hne ..) ?_ hshows
  exact h.rest_elsewhere hc hne houtcome (fun _ => nofun) (Or.inl hallowed.1.1.1)
    (TcpServer.handleRead_user hallowed.2.1 hread) fun j hj => Function.update_of_ne hj ..

/-- A write-complete callback of another connection does not concern this one. -/
lemma Good.quiet_writeComplete (h : s.Good callbacks) {i : ℕ} {reply : ω}
    (hc : c < s.tcp.created) (hne : c ≠ c')
    (hallowed : (machine callbacks).allowed s (.writeCompleteCallback i c' reply))
    (hexec : (machine callbacks).exec s (.writeCompleteCallback i c' reply) = .ok s')
    (hshows : s.Shows callbacks P c t) : s'.Shows callbacks P c t := by
  have houtcome := server_outcome hallowed hexec rfl
  have hafter : (s'.tcp.thread i).user = some (some c') := by
    have htask : (s.tcp.pop i).enterUser i (some c') = s'.tcp := Except.ok.inj (exec_takes hexec)
    rw [← htask]
    exact TcpServer.enterUser_user
  have hnot : ¬s.tcp.Concerns c (.task i (.writeCompleteCallback c')) := by
    rintro (hraw | heq | heq)
    · cases hraw
    · cases heq
    · cases heq
      exact hne rfl
  have hrest := h.rest_elsewhere (i := i) hc hne houtcome (fun _ => nofun) (Or.inl hallowed.1.1) hafter
  obtain ⟨tcp, -, ⟨callback, context, calls, -, -, rfl⟩ | ⟨-, rfl⟩⟩ := writeCompleteCallback_ok hexec
  · exact h.quiet houtcome hc hnot (Function.update_of_ne hne ..) rfl rfl
      (hrest fun j hj => Function.update_of_ne hj ..) hshows
  · exact h.quiet houtcome hc hnot rfl rfl rfl (hrest fun _ _ => rfl) hshows

/-- A call in a callback of another connection does not concern this one. -/
lemma Good.quiet_call (h : s.Good callbacks) {i : ℕ} {x : Call} (hc : c < s.tcp.created)
    (hne : c ≠ c') (hallowed : (machine callbacks).allowed s (.call i c' x))
    (hexec : (machine callbacks).exec s (.call i c' x) = .ok s')
    (hshows : s.Shows callbacks P c t) : s'.Shows callbacks P c t := by
  have huser := hallowed.1.1
  have hserver : ∀ {b}, x.action i c' = some b → ¬s.tcp.Concerns c b → (∀ j, b ≠ .userReturns j) →
      s'.Shows callbacks P c t := by
    intro b hb hnot hreturns
    have houtcome := server_outcome hallowed hexec hb
    have hafter := houtcome.user_kept (hreturns i) huser
    obtain ⟨tcp, rfl⟩ := call_ok hexec
    exact h.quiet houtcome hc hnot rfl (Function.update_of_ne hne ..) rfl
      (h.rest_elsewhere hc hne houtcome hreturns (Or.inr huser) hafter fun j hj =>
        Function.update_of_ne hj ..) hshows
  cases x with
  | sendfile bytes =>
    rw [← Except.ok.inj hexec]
    refine hshows.quiet ?_ ?_ Iff.rfl
    · show (s.tcp.face c).under (s.context c) (Function.update s.socket c' _ c) (s.received c) = _
      rw [Function.update_of_ne hne]
      rfl
    · by_cases hloop : (s.tcp.conn c).loop_ = i
      · rw [rest_other (s := s) hne hloop (Or.inr huser)]
        exact rest_other hne hloop (Or.inr huser)
      · show (if _ then Function.update s.script i _ (s.tcp.conn c).loop_ else []) = _
        rw [Function.update_of_ne hloop]
        rfl
  | retrieve len => exact hserver rfl (fun hc => hne hc.symm) fun _ => nofun
  | send msg => exact hserver rfl (fun hc => hne hc.symm) fun _ => nofun
  | close => exact hserver rfl (fun hc => hne hc.symm) fun _ => nofun

/-! ## Events of the connection -/

/-- A thread without calls has none left of the connection. -/
lemma rest_of_script {i : ℕ} (hloop : (s.tcp.conn c).loop_ = i) (hscript : s.script i = []) :
    s.rest c = [] := by
  rw [rest, hloop, hscript, ite_self]

/-- A loop thread that is between two callbacks. -/
lemma Good.at_rest (h : s.Good callbacks) {i : ℕ} (hup : s.tcp.Up c)
    (hloop : (s.tcp.conn c).loop_ = i) (huser : (s.tcp.thread i).user = none)
    (hshows : s.Shows callbacks P c t) : t = s.view c ∧ s.script i = [] := by
  obtain ⟨hrest, hscript⟩ := h.rest_of_idle huser hloop
  exact ⟨hshows.eq_view hup hrest, hscript⟩

/-- Nothing of a batch is left where handlers run or the queue is taken. -/
lemma batch_eq_nil {i : ℕ} (hplaced : s.tcp.Placed) (hloop : (s.tcp.conn c).loop_ = i)
    (hphase : (s.tcp.thread i).phase ≠ .tasks) : (s.view c).tasks = [] := by
  show s.tcp.batch c = []
  rw [TcpServer.batch, hloop, List.filterMap_eq_nil_iff]
  intro w hw
  cases w with
  | task t => exact absurd ((hplaced.threads i).part _ hw) hphase
  | _ => rfl

/-- Handlers run outside the batch. -/
lemma handler_phase {i : ℕ} {w : Work} (hplaced : s.tcp.Placed) (hnext : s.tcp.Next i w)
    (hw : w = .handleRead c ∨ w = .handleWrite c) : (s.tcp.thread i).phase ≠ .tasks := by
  have hmem : w ∈ (s.tcp.thread i).todo := by
    rw [hnext.todo_eq]
    exact List.mem_cons_self
  have hphase : (s.tcp.thread i).phase = .handlers := by
    rcases hw with rfl | rfl <;> exact (hplaced.threads i).part _ hmem
  rw [hphase]
  nofun

section
variable (h : s.Good callbacks) (hshows : s.Shows callbacks P c t) (hup : s.tcp.Up c) {i : ℕ}
  (hloop : (s.tcp.conn c).loop_ = i)
include h hshows hup hloop

/-- An event without a callback. -/
lemma Good.tcp_event {b : TcpServer.Action} {e : Conversation.Event ρ ω}
    (huser : (s.tcp.thread i).user = none) (hallowed : (machine callbacks).allowed s (.tcp b))
    (hexec : (machine callbacks).exec s (.tcp b) = .ok s')
    (hevent : (s.view c).allowed callbacks e)
    (henter : (s.view c).enter callbacks e = .ok (s'.view c, [])) :
    (Conversation.machine callbacks).Matches (Conversation.Meets callbacks P)
      (s'.Shows callbacks P c) t := by
  obtain ⟨rfl, hscript⟩ := h.at_rest hup hloop huser hshows
  have hloop' := (server_outcome hallowed hexec rfl).extends.2 c hup.1
  have hrest : s'.rest c = [] := by
    refine rest_of_script (hloop'.trans hloop) ?_
    obtain ⟨tcp, -, rfl⟩ := step_ok hexec
    exact hscript
  exact matches_event (up_kept hallowed hexec hup) hevent (hrest ▸ henter)

/-- The loop takes its queue, and so does the conversation. -/
lemma Good.swap_event (hallowed : (machine callbacks).allowed s (.tcp (.swap i)))
    (hexec : (machine callbacks).exec s (.tcp (.swap i)) = .ok s') :
    (Conversation.machine callbacks).Matches (Conversation.Meets callbacks P)
      (s'.Shows callbacks P c) t := by
  have hplaced := h.attended.sound.placed
  have hphase : (s.tcp.thread i).phase = .top := hallowed.1
  have huser := (hplaced.threads i).user_eq_none (by rw [hphase]; decide)
  refine h.tcp_event (e := .swap) hshows hup hloop huser hallowed hexec
    (batch_eq_nil hplaced hloop (by rw [hphase]; nofun)) ?_
  rw [← Except.ok.inj hexec]
  show _ = Except.ok (((s.tcp.swap i).face c).under _ _ _, _)
  rw [TcpServer.swap_face hloop]
  rfl

/-- `closeInLoop` is the event `closeInLoop`. -/
lemma Good.closeInLoop_event
    (hallowed : (machine callbacks).allowed s (.tcp (.task i (.closeInLoop c))))
    (hexec : (machine callbacks).exec s (.tcp (.task i (.closeInLoop c))) = .ok s') :
    (Conversation.machine callbacks).Matches (Conversation.Meets callbacks P)
      (s'.Shows callbacks P c) t := by
  have hnext : s.tcp.Next i (.task (.closeInLoop c)) := hallowed.1
  have hsession : (Work.task (.closeInLoop c)).session c = some .closeInLoop := if_pos rfl
  refine h.tcp_event (e := .closeInLoop) hshows hup hloop hnext.1 hallowed hexec
    (hnext.tasks_head hloop hsession) ?_
  obtain ⟨tcp, hclose, rfl⟩ := step_ok hexec
  have hclose : (s.tcp.pop i).closeInLoop i c = .ok tcp := hclose
  have hface := TcpServer.closeInLoop_face (s := s.tcp.pop i) (h.tame.state_of_up hup) hclose
  rw [TcpServer.face_pop hnext hloop hsession] at hface
  show _ = Except.ok ((tcp.face c).under _ _ _, _)
  rw [hface]
  show Except.ok (if (s.tcp.face c).connected then _ else _, _) = _
  split <;> rfl

/-- `handleWrite` is the event `write`. -/
lemma Good.write_event {written : Option ℕ}
    (hallowed : (machine callbacks).allowed s (.tcp (.handleWrite i c written)))
    (hexec : (machine callbacks).exec s (.tcp (.handleWrite i c written)) = .ok s') :
    (Conversation.machine callbacks).Matches (Conversation.Meets callbacks P)
      (s'.Shows callbacks P c) t := by
  have hplaced := h.attended.sound.placed
  have hnext := hallowed.1.1
  refine h.tcp_event (e := .write written) hshows hup hloop hnext.1 hallowed hexec
    ⟨batch_eq_nil hplaced hloop (handler_phase hplaced hnext (Or.inr rfl)), hallowed.1.2⟩ ?_
  obtain ⟨tcp, hwrite, rfl⟩ := step_ok hexec
  have hwrite : (s.tcp.pop i).handleWrite i c written = .ok tcp := hwrite
  have hface := TcpServer.handleWrite_face (s := s.tcp.pop i) (h.tame.conns c hup.1).state hwrite
  rw [TcpServer.face_of_look (TcpServer.look_pop hnext rfl)] at hface
  have hview := Conversation.handleWrite_under hface (s.context c) (s.socket c)
    (s.received c)
  have hcompletes : (s.tcp.pop i).writeCompleteCallback_ = callbacks.writeCompleteCallback_.isSome :=
    h.completes
  have hsocket : s.afterWrite tcp (.handleWrite i c written) c =
      s.socket c ++ (tcp.face c).socket.drop (s.tcp.face c).socket.length := Function.update_self ..
  rw [hcompletes, ← hsocket] at hview
  rw [Conversation.enter, view, hview]
  rfl

/-- `read` fails, or finds that the peer has closed. -/
lemma Good.read_event {data : Option Bytes}
    (hallowed : (machine callbacks).allowed s (.tcp (.handleRead i c data)))
    (hexec : (machine callbacks).exec s (.tcp (.handleRead i c data)) = .ok s') :
    (Conversation.machine callbacks).Matches (Conversation.Meets callbacks P)
      (s'.Shows callbacks P c) t := by
  have hplaced := h.attended.sound.placed
  have hnext := hallowed.1.1
  have hpop := TcpServer.look_pop (c := c) hnext rfl
  have houtcome := server_outcome hallowed hexec rfl
  have hdata : data = none ∨ data = some [] := by
    have hplain : data.getD [] = [] := hallowed.2
    cases data with
    | none => exact Or.inl rfl
    | some data => exact Or.inr (congrArg some hplain)
  rcases hdata with rfl | rfl
  · -- nothing has happened
    have htcp : s'.tcp = s.tcp.pop i := (Except.ok.inj (exec_takes hexec)).symm
    have hrest : s'.rest c = s.rest c := h.rest_kept hup.1 houtcome (fun _ => nofun) (by
      obtain ⟨tcp, -, rfl⟩ := step_ok hexec
      rfl)
    refine .stay (hshows.quiet ?_ hrest ⟨fun _ => hup, fun _ => up_kept hallowed hexec hup⟩)
    rw [view, htcp, TcpServer.face_of_look hpop]
    obtain ⟨tcp, -, rfl⟩ := step_ok hexec
    rfl
  · have hstate := h.attended.sound.state_of_read hnext.mem_works
    refine h.tcp_event (e := .peerClosed) hshows hup hloop hnext.1 hallowed hexec
      ⟨batch_eq_nil hplaced hloop (handler_phase hplaced hnext (Or.inl rfl)), ?_⟩ ?_
    · rcases hstate with hstate | hstate <;> simp [view, TcpServer.face, Conversation.under, hstate]
    · obtain ⟨tcp, hread, rfl⟩ := step_ok hexec
      have hread : (s.tcp.pop i).handleClose i c = .ok tcp := hread
      have hface := (TcpServer.handleClose_ok hread).face_eq rfl
      rw [TcpServer.face_of_look hpop] at hface
      show _ = Except.ok ((tcp.face c).under _ _ _, _)
      rw [hface]
      rfl

/-- A callback begins. -/
lemma Good.enter_event {e : Conversation.Event ρ ω} {tcp : TcpServer} {context : χ}
    {calls : List Call} {received : ConnId → Bytes} (hup' : tcp.Up c)
    (hloop' : (tcp.conn c).loop_ = (s.tcp.conn c).loop_)
    (huser : (s.tcp.thread i).user = none) (huser' : (tcp.thread i).user = some (some c))
    (hevent : (s.view c).allowed callbacks e)
    (henter : (s.view c).enter callbacks e =
      .ok ((tcp.face c).under context (s.socket c) (received c), calls)) :
    (Conversation.machine callbacks).Matches (Conversation.Meets callbacks P)
      (({ s with tcp := tcp, received := received }.enter i c context calls).Shows callbacks P c) t := by
  obtain ⟨rfl, -⟩ := h.at_rest hup hloop huser hshows
  have hrest :
      ({ s with tcp := tcp, received := received }.enter i c context calls).rest c = calls := by
    show (if (tcp.thread (tcp.conn c).loop_).user = some (some c) then
      Function.update s.script i calls (tcp.conn c).loop_ else []) = calls
    rw [hloop', hloop, if_pos huser', Function.update_self]
  have hview : ({ s with tcp := tcp, received := received }.enter i c context calls).view c =
      (tcp.face c).under context (s.socket c) (received c) := by
    show (tcp.face c).under (Function.update s.context c context c) (s.socket c) (received c) = _
    rw [Function.update_self]
  refine matches_event (e := e) hup' hevent ?_
  rw [hrest, hview, henter]

/-- A read begins the event `read`, with the calls of `msgCallback_` to come. -/
lemma Good.msgCallback_event {data : Bytes} {reply : ρ}
    (hallowed : (machine callbacks).allowed s (.msgCallback i c data reply))
    (hexec : (machine callbacks).exec s (.msgCallback i c data reply) = .ok s') :
    (Conversation.machine callbacks).Matches (Conversation.Meets callbacks P)
      (s'.Shows callbacks P c) t := by
  have hplaced := h.attended.sound.placed
  have hloop' := (server_outcome hallowed hexec rfl).extends.2 c hup.1
  have hup' := up_kept hallowed hexec hup
  obtain ⟨⟨hnext, hlen⟩, hdata, hreply⟩ := hallowed
  obtain ⟨tcp, context, calls, hread, hcallback, rfl⟩ := msgCallback_ok hexec
  have hread : (s.tcp.pop i).handleRead i c (some data) = .ok tcp := hread
  obtain ⟨input, hinput, hface⟩ := TcpServer.handleRead_face hdata hread
  rw [TcpServer.face_of_look (TcpServer.look_pop hnext rfl)] at hinput hface
  have hconnected : (s.view c).connected = true := by
    rcases h.attended.sound.state_of_read hnext.mem_works with hstate | hstate <;>
      simp [view, TcpServer.face, Conversation.under, hstate]
  refine h.enter_event (e := .read data reply) hshows hup hloop hup' hloop' hnext.1
    (TcpServer.handleRead_user hdata hread)
    ⟨batch_eq_nil hplaced hloop (handler_phase hplaced hnext (Or.inl rfl)), hconnected, hdata,
      hreply, hlen data rfl⟩ ?_
  have hinput : (s.view c).input_.readFd (some data) = .ok input := hinput
  have hreadable : (tcp.conn c).input_ = input := congrArg Conversation.input_ hface
  rw [hreadable] at hcallback
  have hcallback : callbacks.msgCallback_ reply input.readable (s.view c).context =
    .ok (context, calls) := hcallback
  rw [Conversation.enter, hinput, except_ok_bind, hcallback, except_ok_bind, hface,
    Function.update_self]
  rfl

/-- The task begins the event `writeComplete`, with the calls of the callback to come. -/
lemma Good.writeComplete_event {reply : ω}
    (hallowed : (machine callbacks).allowed s (.writeCompleteCallback i c reply))
    (hexec : (machine callbacks).exec s (.writeCompleteCallback i c reply) = .ok s') :
    (Conversation.machine callbacks).Matches (Conversation.Meets callbacks P)
      (s'.Shows callbacks P c) t := by
  have hloop' := (server_outcome hallowed hexec rfl).extends.2 c hup.1
  have hup' := up_kept hallowed hexec hup
  obtain ⟨hnext, hreply⟩ := hallowed
  have hsession : (Work.task (.writeCompleteCallback c)).session c = some .onWriteComplete :=
    if_pos rfl
  have hevent : (s.view c).allowed callbacks (.writeComplete reply) :=
    ⟨hnext.tasks_head hloop hsession, hreply⟩
  have htask : (s.tcp.pop i).enterUser i (some c) = s'.tcp := Except.ok.inj (exec_takes hexec)
  have hface : s'.tcp.face c = { s.tcp.face c with tasks := (s.tcp.face c).tasks.tail } := by
    rw [← htask, TcpServer.face_of_look TcpServer.look_enterUser,
      TcpServer.face_pop hnext hloop hsession]
  have huser' : (s'.tcp.thread i).user = some (some c) := by
    rw [← htask]
    exact TcpServer.enterUser_user
  obtain ⟨tcp, -, ⟨callback, context, calls, hsome, hcallback, rfl⟩ | ⟨hnone, rfl⟩⟩ :=
    writeCompleteCallback_ok hexec
  · refine h.enter_event (e := .writeComplete reply) hshows hup hloop hup' hloop' hnext.1 huser'
      hevent ?_
    have hcallback : callback reply (s.view c).context = .ok (context, calls) := hcallback
    simp only [Conversation.enter, hsome]
    rw [hcallback, except_ok_bind, show tcp.face c = _ from hface]
    rfl
  · obtain ⟨rfl, hscript⟩ := h.at_rest hup hloop hnext.1 hshows
    refine matches_event (e := .writeComplete reply) hup' hevent ?_
    rw [rest_of_script (hloop'.trans hloop) hscript]
    simp only [Conversation.enter, hnone]
    show _ = Except.ok ((tcp.face c).under _ _ _, _)
    rw [show tcp.face c = _ from hface]
    rfl

/-- A call is one of the event that its callback has begun; the last one ends it. -/
lemma Good.call_event {x : Call} (hallowed : (machine callbacks).allowed s (.call i c x))
    (hexec : (machine callbacks).exec s (.call i c x) = .ok s') (hx : P (s.view c) x) :
    (Conversation.machine callbacks).Matches (Conversation.Meets callbacks P)
      (s'.Shows callbacks P c) t := by
  have hup' := up_kept hallowed hexec hup
  obtain ⟨⟨huser, hhead⟩, hcall⟩ := id hallowed
  have hscript : s.script i = x :: (s.script i).tail := List.eq_cons_of_mem_head? hhead
  -- the thread is in the callback before and after
  have hplace : (s'.tcp.conn c).loop_ = i ∧ (s'.tcp.thread i).user = some (some c) := by
    have hserver : ∀ {b}, x.action i c = some b → b ≠ .userReturns i →
        (s'.tcp.conn c).loop_ = i ∧ (s'.tcp.thread i).user = some (some c) := by
      intro b hb hreturns
      have houtcome := server_outcome hallowed hexec hb
      exact ⟨(houtcome.extends.2 c hup.1).trans hloop, houtcome.user_kept hreturns huser⟩
    cases x with
    | sendfile bytes =>
      have htcp : s'.tcp = s.tcp := exec_takes hexec
      rw [htcp]
      exact ⟨hloop, huser⟩
    | retrieve len => exact hserver rfl fun hb => by cases hb
    | send msg => exact hserver rfl fun hb => by cases hb
    | close => exact hserver rfl fun hb => by cases hb
  have hrest : s.rest c = x :: s'.rest c := by
    obtain ⟨tcp, rfl⟩ := call_ok hexec
    show (if (s.tcp.thread (s.tcp.conn c).loop_).user = some (some c) then
      s.script (s.tcp.conn c).loop_ else []) = x :: (if (tcp.thread (tcp.conn c).loop_).user =
        some (some c) then Function.update s.script i _ (tcp.conn c).loop_ else [])
    rw [hloop, if_pos huser, hplace.1, if_pos hplace.2, Function.update_self]
    exact hscript
  refine hshows.call hup hup' hrest ?_ hx
  have hview : s'.view c =
      (s'.tcp.face c).under (s.context c) (s.socket c ++ x.direct) (s.received c) := by
    obtain ⟨tcp, rfl⟩ := call_ok hexec
    show (tcp.face c).under (s.context c) (Function.update s.socket c _ c) (s.received c) = _
    rw [Function.update_self]
  have htakes := exec_takes hexec
  rw [hview]
  cases x with
  | sendfile bytes =>
    have htcp : s'.tcp = s.tcp := htakes
    rw [htcp]
    rfl
  | retrieve len =>
    rw [Call.direct, List.append_nil]
    exact Conversation.call_under (TcpServer.retrieve_face htakes) (fun _ hx => by cases hx) _ _ _
  | send msg =>
    have hin := h.attended.sound.placed.inLoop_of_user (hcall _ rfl).1.1
    rw [Call.direct, List.append_nil]
    exact Conversation.call_under (TcpServer.send_face (i := i) (hloop ▸ hin)
      (h.tame.state_of_up hup) htakes) (fun _ hx => by cases hx) _ _ _
  | close =>
    have htcp : s.tcp.close c = s'.tcp := Except.ok.inj htakes
    rw [Call.direct, List.append_nil, ← htcp]
    exact Conversation.call_under TcpServer.close_face (fun _ hx => by cases hx) _ _ _

end

/-! ## Connections that are established -/

/-- A connection is established with the first context and with nothing on the socket. -/
lemma Good.birth (h : s.Good callbacks) {a : Action ρ ω}
    (hallowed : (machine callbacks).allowed s a)
    (hexec : (machine callbacks).exec s a = .ok s') (hdown : ¬s.tcp.Up c) (hup : s'.tcp.Up c) :
    s'.Shows callbacks P c (Conversation.initial callbacks) := by
  have hsound := h.attended.sound
  cases hserver : a.server with
  | none =>
    have htcp := exec_takes hexec
    rw [hserver] at htcp
    rw [show s'.tcp = s.tcp from htcp] at hup
    exact absurd hup hdown
  | some b =>
    have houtcome := server_outcome hallowed hexec hserver
    obtain ⟨⟨wrote, hface⟩, hb⟩ := houtcome.born h.tame hsound (server_tame hallowed hserver)
      (server_allowed hallowed hserver) hdown hup
    obtain ⟨rfl, hwrite⟩ : a = .tcp b ∧ ∀ tcp, s.afterWrite tcp b = s.socket := by
      rcases hb with ⟨i, rfl⟩ | ⟨i, fd, rfl⟩
      · cases a with
        | tcp b => exact ⟨congrArg Action.tcp (Option.some.inj hserver), fun _ => rfl⟩
        | msgCallback i c data reply => cases hserver
        | writeCompleteCallback i c reply => cases hserver
        | call i c x => cases x <;> cases hserver
      · cases a with
        | tcp b => exact ⟨congrArg Action.tcp (Option.some.inj hserver), fun _ => rfl⟩
        | msgCallback i c data reply => cases hserver
        | writeCompleteCallback i c reply => cases hserver
        | call i c x => cases x <;> cases hserver
    obtain ⟨tcp, -, rfl⟩ := step_ok hexec
    obtain ⟨hcontext, hsocket, hreceived⟩ := h.untouched c hdown
    have hview : Serving.view { s with tcp := tcp, socket := s.afterWrite tcp b } c =
        Conversation.initial callbacks := by
      show (tcp.face c).under (s.context c) (s.afterWrite tcp b c) (s.received c) = _
      rw [hface, hwrite, hcontext, hsocket, hreceived]
      rfl
    refine hview ▸ .idle hup ?_
    show (if (tcp.thread (tcp.conn c).loop_).user = some (some c) then
      s.script (tcp.conn c).loop_ else []) = []
    rcases houtcome.userAfter (j := (tcp.conn c).loop_) with hsame | ⟨-, hnone⟩ | ⟨arg, hentered⟩
    · refine if_neg fun huser => hdown (h.tame.up_user hsound.placed (hsame.symm.trans huser))
    · refine if_neg fun huser => ?_
      have hnone : (tcp.thread (tcp.conn c).loop_).user = none := hnone
      rw [hnone] at huser
      cases huser
    · have hscript : s.script (tcp.conn c).loop_ = [] := by
        by_contra hne
        obtain ⟨c', hc'⟩ := h.scripts _ hne
        have hbefore := hentered.before
        rw [hc'] at hbefore
        cases hbefore
      rw [hscript, ite_self]

/-! ## Every step, every run -/

/-- A step of the server that concerns an established connection is an event of it. -/
lemma Good.concerned (h : s.Good callbacks) {b : TcpServer.Action} (hup : s.tcp.Up c)
    (hallowed : (machine callbacks).allowed s (.tcp b))
    (hexec : (machine callbacks).exec s (.tcp b) = .ok s') (hconcerns : s.tcp.Concerns c b)
    (hshows : s.Shows callbacks P c t) :
    (Conversation.machine callbacks).Matches (Conversation.Meets callbacks P)
      (s'.Shows callbacks P c) t := by
  have hsound := h.attended.sound
  have hlives : ∀ {i w}, s.tcp.Next i w → s.tcp.WorkAt i w := fun hnext => hsound.placed.workAt hnext
  cases b with
  | task i task =>
    rcases hconcerns with hraw | rfl | rfl
    · obtain ⟨c', rfl⟩ :=
        h.tame.raw i task (TcpServer.Next.mem_works hallowed.1) (by rw [hraw]; nofun)
      obtain rfl : c' = c := Option.some.inj hraw
      have hloop : s.tcp.Lives c' i := hlives hallowed.1
      exact h.closeInLoop_event hshows hup hloop.2 hallowed hexec
    · obtain ⟨st, hst, hfits⟩ := hsound.fits (TcpServer.Next.mem_works hallowed.1) rfl
      obtain rfl := Option.some.inj (Stage.stage_work hst)
      exact absurd (List.mem_singleton.mp hfits.state) hup.2
    · exact hallowed.2.elim
  | handleRead i c' data =>
    cases hconcerns
    have hloop : s.tcp.Lives c i := hlives hallowed.1.1
    exact h.read_event hshows hup hloop.2 hallowed hexec
  | handleWrite i c' written =>
    cases hconcerns
    have hloop : s.tcp.Lives c i := hlives hallowed.1.1
    exact h.write_event hshows hup hloop.2 hallowed hexec
  | swap i => exact h.swap_event hshows hup hconcerns.symm hallowed hexec
  | send t c' msg => exact hallowed.2.elim
  | shutdown t c' => exact hallowed.2.elim
  | close t c' => exact hallowed.2.elim
  | closeInNextLoop t c' => exact hallowed.2.elim
  | retrieve i c' len => exact hallowed.2.elim
  | _ => exact hconcerns.elim

/-- Every step of the server is an event of the conversation, part of one, or none. -/
lemma conversation_step {c : ConnId} {a : Action ρ ω} (h : s.Good callbacks)
    (hallowed : (machine callbacks).allowed s a) (hexec : (machine callbacks).exec s a = .ok s')
    (hmeets : s.CallsMeet P c a) (hshows : s.Shows callbacks P c t) :
    (Conversation.machine callbacks).Matches (Conversation.Meets callbacks P)
      (s'.Shows callbacks P c) t := by
  have hplaced := h.attended.sound.placed
  by_cases hup : s.tcp.Up c
  · cases a with
    | tcp b =>
      by_cases hconcerns : s.tcp.Concerns c b
      · exact h.concerned hup hallowed hexec hconcerns hshows
      · exact .stay (h.quiet_tcp hup.1 hallowed hexec hconcerns hshows)
    | msgCallback i c' data reply =>
      by_cases hc : c = c'
      · subst hc
        have hloop : s.tcp.Lives c i := hplaced.workAt hallowed.1.1
        exact h.msgCallback_event hshows hup hloop.2 hallowed hexec
      · exact .stay (h.quiet_msgCallback hup.1 hc hallowed hexec hshows)
    | writeCompleteCallback i c' reply =>
      by_cases hc : c = c'
      · subst hc
        have hloop : s.tcp.Lives c i := hplaced.workAt hallowed.1
        exact h.writeComplete_event hshows hup hloop.2 hallowed hexec
      · exact .stay (h.quiet_writeComplete hup.1 hc hallowed hexec hshows)
    | call i c' x =>
      by_cases hc : c = c'
      · subst hc
        exact h.call_event hshows hup (hplaced.user i c hallowed.1.1).2 hallowed hexec (hmeets rfl)
      · exact .stay (h.quiet_call hup.1 hc hallowed hexec hshows)
  · cases hshows with
    | unborn _ =>
      by_cases hup' : s'.tcp.Up c
      · exact .stay (h.birth hallowed hexec hup hup')
      · exact .stay (.unborn hup')
    | idle h _ => exact absurd h hup
    | calling h _ _ _ _ => exact absurd h hup

/-- **The server implements the conversations** of its connections. -/
lemma conversation_simulation (P : Conversation χ → Call → Prop) (c : ConnId) :
    (machine callbacks).Simulation (Conversation.machine callbacks)
      (fun s a => s.Few a ∧ CallsMeet P c s a) (Conversation.Meets callbacks P)
        fun s t => s.Good callbacks ∧ s.Shows callbacks P c t := by
  rintro s t a s' ⟨hgood, hshows⟩ ⟨hfew, hmeets⟩ hallowed hexec
  obtain ⟨ks, t', hrun, hsteps, hshows'⟩ := conversation_step hgood hallowed hexec hmeets hshows
  exact ⟨ks, t', hrun, hsteps, hgood.step hallowed hexec hfew, hshows'⟩

section
variable {size_ : ℕ} {name_ : Bytes} {as : List (Action ρ ω)}

/-- A run of the server in which the calls meet a condition is matched by one of the conversation in
which they do. -/
lemma matches_of_run (hrun : (machine callbacks).Run (initial callbacks size_ name_) as s)
    (hsteps : (machine callbacks).AllSteps (fun s a => s.Few a ∧ CallsMeet P c s a)
      (initial callbacks size_ name_) as) :
    (Conversation.machine callbacks).Matches (Conversation.Meets callbacks P)
      (fun t => s.Good callbacks ∧ s.Shows callbacks P c t) (Conversation.initial callbacks) :=
  (conversation_simulation P c).run hrun hsteps
    ⟨good_initial callbacks size_ name_, .unborn fun hup => absurd hup.1 (Nat.not_lt_zero c)⟩

/-- Nothing is asked of the calls. -/
lemma allSteps_few (hrun : (machine callbacks).Run (initial callbacks size_ name_) as s)
    (hfew : (machine callbacks).AllSteps Few (initial callbacks size_ name_) as) :
    (machine callbacks).AllSteps (fun s a => s.Few a ∧ CallsMeet (fun _ _ => True) c s a)
      (initial callbacks size_ name_) as :=
  hrun.allSteps (I := fun _ => True) hfew trivial (fun _ _ _ _ _ _ _ => trivial)
    fun _ _ _ hfew _ => ⟨hfew, CallsMeet.of_forall fun _ _ => trivial⟩

/-- Between two callbacks the server holds what a run of the conversation leads to. -/
lemma view_of_run (hrun : (machine callbacks).Run (initial callbacks size_ name_) as s)
    (hsteps : (machine callbacks).AllSteps (fun s a => s.Few a ∧ CallsMeet P c s a)
      (initial callbacks size_ name_) as) (hup : s.tcp.Up c) (hrest : s.rest c = []) :
    (Conversation.machine callbacks).Matches (Conversation.Meets callbacks P)
      (fun t => t = s.view c) (Conversation.initial callbacks) := by
  obtain ⟨es, t, hes, hmeets, -, hshows⟩ := matches_of_run hrun hsteps
  exact ⟨es, t, hes, hmeets, hshows.eq_view hup hrest⟩

/-- **Each connection by itself.** Whatever the other connections and the other threads do, and
wherever between the calls of a callback they do it, the server has of each connection what a run of
its conversation has led to; the calls of a callback that is still running are behind that. -/
theorem converses_of_run (hrun : (machine callbacks).Run (initial callbacks size_ name_) as s)
    (hfew : (machine callbacks).AllSteps Few (initial callbacks size_ name_) as) (c : ConnId) :
    ∃ es t, (Conversation.machine callbacks).Run (Conversation.initial callbacks) es t ∧
      s.Shows callbacks (fun _ _ => True) c t := by
  obtain ⟨es, t, hes, -, -, hshows⟩ := matches_of_run hrun (allSteps_few hrun hfew)
  exact ⟨es, t, hes, hshows⟩

/-- An echo server that has been sent two bytes, and has written one back. -/
theorem converses_echoTwo : ∃ s, (machine EchoServer.callbacks).Run
    (initial EchoServer.callbacks 0 []) EchoServer.echoTwo s ∧ s.socket 0 = [104] ∧
      ∃ es t, (Conversation.machine EchoServer.callbacks).Run
        (Conversation.initial EchoServer.callbacks) es t ∧
          s.Shows EchoServer.callbacks (fun _ _ => True) 0 t := by
  obtain ⟨s, hrun, hs⟩ := Machine.Run.of_replay_map (machine EchoServer.callbacks)
    (initial EchoServer.callbacks 0 []) EchoServer.echoTwo (fun s => decide (s.socket 0 = [104]))
    (by decide +kernel)
  exact ⟨s, hrun, of_decide_eq_true hs, converses_of_run hrun (by decide +kernel) 0⟩

end

end Serving
end Miniduo
