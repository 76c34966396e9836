import Miniduo.Http.HttpServerTheorems
import Miniduo.Http.ProgressTheorems
import Miniduo.Http.RefinementTheorems

/-!
# Conversations and sessions

`HttpServer.Session` has queues of bytes in place of the two buffers of a connection. A conversation
with the callbacks of `HttpServer` is a run of `HttpServer.machine` as well, as long as its buffers
are queues, that is, as long as none of its steps slides one of them (`session_of_run`).
-/

namespace Miniduo

open HttpServer (callbacks)

namespace HttpServer

/-- The session that the conversation is, with the messages and the answers so far. -/
def session (t : Conversation HttpContext) (sent : List Bytes) (answers : List Answer) :
    Session where
  req := t.context.req
  resp := t.context.resp
  input_ := t.input_.readable
  output_ := t.output_.readable
  isWriting := t.isWriting
  disconnected := !t.connected
  pendingTasks_ := t.pendingTasks_
  tasks := t.tasks
  sent := sent
  answers := answers

/-- The session and the conversation have come to the same. -/
structure Plays (t : Conversation HttpContext) (s : Session) : Prop where
  eq : s = session t s.sent s.answers
  input : t.input_.WF
  output : t.output_.WF

/-- A message is put behind what the output buffer holds. -/
def Queues (t : Conversation HttpContext) : Call → Prop
  | .send msg => msg.length ≤ maxSize ∧ ¬t.output_.Slides msg.length
  | _ => True

/-- Neither buffer is slid. -/
def KeepsQueues (resourcePath_ : Bytes) (t : Conversation HttpContext)
    (e : Conversation.Event FileReply (Option ℕ)) : Prop :=
  t.Meets (callbacks resourcePath_) Queues e ∧
    match e with
    | .read data _ => t.input_.NoSlide (.readFd (some data))
    | _ => True

variable {resourcePath_ : Bytes} {t t' : Conversation HttpContext} {s : Session}

/-! ## Calls -/

/-- `send` puts the message behind the output, or does nothing behind the end of the connection. -/
lemma Plays.send {msg : Bytes} (h : Plays t s) (hqueues : Queues t (.send msg))
    (hcall : t.call (.send msg) = .ok t') : Plays t' (HttpServer.send s msg) := by
  obtain ⟨heq, hinput, houtput⟩ := h
  obtain ⟨hlen, hslide⟩ := hqueues
  rw [heq]
  rw [Conversation.call] at hcall
  unfold HttpServer.send session
  cases hconnected : t.connected with
  | true =>
    rw [if_pos hconnected] at hcall
    obtain ⟨output, happend, hcall⟩ := except_bind_eq_ok.mp hcall
    obtain rfl := Except.ok.inj hcall
    refine ⟨?_, hinput, Buffer.append_wf houtput hlen happend⟩
    simp [session, hconnected, Buffer.append_ok houtput hlen happend hslide]
  | false =>
    rw [if_neg (by simp [hconnected])] at hcall
    obtain rfl := Except.ok.inj hcall
    exact ⟨by simp [session, hconnected], hinput, houtput⟩

/-- What is taken out of the input buffer is its front. -/
lemma Plays.retrieve {len : ℕ} (h : Plays t s) (hcall : t.call (.retrieve len) = .ok t') :
    Plays t' { s with input_ := s.input_.drop len } := by
  obtain ⟨heq, hinput, houtput⟩ := h
  obtain ⟨input, hretrieve, hcall⟩ := except_bind_eq_ok.mp hcall
  obtain rfl := Except.ok.inj hcall
  obtain ⟨hwf, hreadable⟩ := Buffer.retrieve_ok hinput hretrieve
  refine ⟨?_, hwf, houtput⟩
  rw [heq]
  simp [session, hreadable]

lemma Plays.context {context : HttpContext} (h : Plays t s) :
    Plays { t with context := context } { s with req := context.req, resp := context.resp } := by
  obtain ⟨heq, hinput, houtput⟩ := h
  refine ⟨?_, hinput, houtput⟩
  rw [heq]
  rfl

/-! ## Callbacks -/

/-- The two messages of a response. -/
lemma Plays.sendResponse (h : Plays t s)
    (hqueues : t.Keeps Queues [.send s.resp.headers_, .send s.resp.body_])
    (hcalls : t.calls [.send s.resp.headers_, .send s.resp.body_] = .ok t') :
    Plays t' (HttpServer.sendResponse s) := by
  obtain ⟨t₁, hheaders, hcalls⟩ := except_bind_eq_ok.mp hcalls
  obtain ⟨t₂, hbody, hcalls⟩ := except_bind_eq_ok.mp hcalls
  obtain rfl := Except.ok.inj hcalls
  exact (h.send hqueues.1 hheaders).send (hqueues.2 _ hheaders).1 hbody

/-- The answers are a record only. -/
lemma Plays.answered (h : Plays t s) (answers : List Answer) :
    Plays t { s with answers := answers } := by
  refine ⟨?_, h.input, h.output⟩
  rw [h.eq]
  rfl

/-- With the context that `onMsg` leaves, the input is taken out that the decoder has read. -/
lemma Plays.taken {buf : Bytes} {context : HttpContext} {len : ℕ} (h : Plays t s)
    (hsuffix : buf <:+ t.input_.readable) (hlen : len = t.input_.readable.length - buf.length)
    (hcall : { t with context := context }.call (.retrieve len) = .ok t') :
    Plays t' { s with req := context.req, resp := context.resp, input_ := buf } := by
  have hinput : s.input_ = t.input_.readable := congrArg Session.input_ h.eq
  have hdrop : s.input_.drop len = buf := by
    rw [hinput, hlen]
    exact (List.suffix_iff_eq_drop.mp hsuffix).symm
  have hcontext : Plays { t with context := context }
      { s with req := context.req, resp := context.resp } := h.context
  have hplays := hcontext.retrieve hcall
  rwa [← hdrop]

lemma loaded_frame (x : HttpContext) (reply : FileReply) (retcode : HttpCode)
    (resp : HttpResponse) : (x.loaded reply retcode resp).req = x.req ∧
      (x.loaded reply retcode resp).resp = resp := by
  unfold HttpContext.loaded
  split <;> exact ⟨rfl, rfl⟩

/-- The response that is answered with is the one that `loadResponse` builds. -/
lemma answer_eq_ok {reply : FileReply} {retcode : HttpCode} {x context : HttpContext}
    (h : x.answer resourcePath_ reply retcode = .ok context) :
    context.req = x.req ∧ loadResponse resourcePath_ reply.fs x.req x.resp
      (if retcode = .getRequest then handleRequest resourcePath_ reply.fs x.req else retcode) =
        .ok context.resp := by
  obtain ⟨resp, hload, h⟩ := except_bind_eq_ok.mp h
  rw [← Except.ok.inj h, hload]
  exact ⟨(loaded_frame ..).1, congrArg Except.ok (loaded_frame ..).2.symm⟩

lemma Plays.onMsg {reply : FileReply} {context : HttpContext} {calls : List Call} (h : Plays t s)
    (honMsg : t.context.onMsg resourcePath_ reply t.input_.readable = .ok (context, calls))
    (hqueues : { t with context := context }.Keeps Queues calls)
    (hcalls : { t with context := context }.calls calls = .ok t') :
    ∃ s', HttpServer.onMsg resourcePath_ reply.fs s = .ok s' ∧ Plays t' s' := by
  have hreq : s.req = t.context.req := congrArg Session.req h.eq
  have hinput : s.input_ = t.input_.readable := congrArg Session.input_ h.eq
  have hresp : s.resp = t.context.resp := congrArg Session.resp h.eq
  unfold HttpContext.onMsg at honMsg
  unfold HttpServer.onMsg decodeHttpRequest
  rw [hreq, hinput]
  split at honMsg
  · rename_i hstate
    obtain ⟨rfl, rfl⟩ := Prod.mk.inj (Except.ok.inj honMsg)
    obtain rfl := Except.ok.inj hcalls
    exact ⟨s, by rw [if_pos hstate]; rfl, h⟩
  · rename_i hstate
    rw [if_neg hstate]
    have hsuffix := HttpRequest.tryDecode_suffix t.context.req t.input_.readable
    simp only at honMsg ⊢
    split at honMsg
    · cases honMsg
    · rename_i retcode hresult
      simp only [hresult, except_ok_bind]
      split at honMsg
      · rename_i hcode
        obtain ⟨rfl, rfl⟩ := Prod.mk.inj (Except.ok.inj honMsg)
        obtain ⟨t₁, hretrieve, hcalls⟩ := except_bind_eq_ok.mp hcalls
        obtain rfl := Except.ok.inj hcalls
        refine ⟨_, if_pos hcode, ?_⟩
        rw [hresp]
        exact h.taken hsuffix rfl hretrieve
      · rename_i hcode
        obtain ⟨context', hanswer, honMsg⟩ := except_bind_eq_ok.mp honMsg
        obtain ⟨rfl, rfl⟩ := Prod.mk.inj (Except.ok.inj honMsg)
        obtain ⟨t₁, hretrieve, hcalls⟩ := except_bind_eq_ok.mp hcalls
        obtain ⟨hreq', hload⟩ := answer_eq_ok hanswer
        have hplays := h.taken hsuffix rfl hretrieve
        rw [if_neg hcode, hresp, hload]
        refine ⟨_, rfl, Plays.sendResponse ?_ (hqueues.2 _ hretrieve) hcalls⟩
        rw [hreq'] at hplays
        exact hplays.answered _

/-- A finished response is cleared in both. -/
lemma Plays.finishResponse (h : Plays t s)
    (hcalls : { t with context := t.context.finishResponse.1 }.calls t.context.finishResponse.2 =
      .ok t') : Plays t' (HttpServer.finishResponse s) := by
  obtain ⟨heq, hinput, houtput⟩ := h
  have hcontext : t.context.finishResponse = ({ t.context with
      req := t.context.req.clear, resp := t.context.resp.clear },
        if t.context.resp.closeConnection_ then [.close] else []) := rfl
  rw [hcontext] at hcalls
  rw [heq]
  unfold HttpServer.finishResponse session
  cases hclose : t.context.resp.closeConnection_ with
  | true =>
    simp only [hclose, if_true] at hcalls ⊢
    obtain rfl := Except.ok.inj hcalls
    exact ⟨rfl, hinput, houtput⟩
  | false =>
    simp only [hclose, Bool.false_eq_true, if_false] at hcalls ⊢
    obtain rfl := Except.ok.inj hcalls
    exact ⟨rfl, hinput, houtput⟩

/-- What `sendfile` returns, as a `long`. -/
def returned : Option ℕ → ℤ
  | some n => n
  | none => -1

lemma Plays.onWriteComplete {result : Option ℕ} {context : HttpContext} {calls : List Call}
    (h : Plays t s) (hcallback : t.context.onWriteComplete result = .ok (context, calls))
    (hqueues : { t with context := context }.Keeps Queues calls)
    (hcalls : { t with context := context }.calls calls = .ok t') :
    ∃ s', HttpServer.onWriteComplete (returned result) s = .ok s' ∧ Plays t' s' := by
  have hreq : s.req = t.context.req := congrArg Session.req h.eq
  have hresp : s.resp = t.context.resp := congrArg Session.resp h.eq
  unfold HttpContext.onWriteComplete at hcallback
  unfold HttpServer.onWriteComplete
  rw [hreq, hresp]
  split at hcallback
  · rename_i hcomplete
    obtain ⟨rfl, rfl⟩ := Prod.mk.inj (Except.ok.inj hcallback)
    exact ⟨_, if_pos hcomplete, h.finishResponse hcalls⟩
  · rename_i hcomplete
    rw [if_neg hcomplete]
    split at hcallback
    · rename_i hstate
      obtain ⟨_, hopen, hcallback⟩ := except_bind_eq_ok.mp hcallback
      rw [if_pos hstate, hopen, except_ok_bind]
      have hfinish : t.context.finishResponse = (context, calls) →
          Plays t' (HttpServer.finishResponse s) := by
        intro heq
        obtain ⟨rfl, rfl⟩ := Prod.mk.inj heq
        exact h.finishResponse hcalls
      cases result with
      | none => exact ⟨_, if_neg (by decide), hfinish (Except.ok.inj hcallback)⟩
      | some n =>
        cases n with
        | zero => exact ⟨_, if_neg (by decide), hfinish (Except.ok.inj hcallback)⟩
        | succ n =>
          obtain ⟨rfl, rfl⟩ := Prod.mk.inj (Except.ok.inj hcallback)
          obtain ⟨t₁, hsendfile, hcalls⟩ := except_bind_eq_ok.mp hcalls
          obtain ⟨t₂, hsend, hcalls⟩ := except_bind_eq_ok.mp hcalls
          obtain rfl := Except.ok.inj hcalls
          have hqueue := (hqueues.2 _ hsendfile).1
          obtain rfl := Except.ok.inj hsendfile
          refine ⟨_, if_pos (Int.natCast_pos.mpr n.succ_pos), Plays.send ?_ hqueue hsend⟩
          exact ⟨h.eq, h.input, h.output⟩
    · rename_i hstate
      rw [if_neg hstate]
      obtain ⟨rfl, rfl⟩ := Prod.mk.inj (Except.ok.inj hcallback)
      obtain rfl := Except.ok.inj hcalls
      exact ⟨s, rfl, h⟩

/-! ## Every event, every run -/

/-- What is read is put behind what the input buffer holds. -/
lemma Plays.read {data : Bytes} {input : Buffer} (h : Plays t s)
    (hqueue : t.input_.NoSlide (.readFd (some data)))
    (hread : t.input_.readFd (some data) = .ok input) :
    Plays { t with input_ := input, received := t.received ++ data }
      { s with input_ := s.input_ ++ data } := by
  obtain ⟨heq, hinput, houtput⟩ := h
  obtain ⟨input', hread', hin, hreader, hreadable⟩ := hinput.inBounds.readFd_spec hqueue
  obtain rfl := Except.ok.inj (hread.symm.trans hread')
  refine ⟨?_, hin.wf (hreader ▸ hinput.prepend), houtput⟩
  rw [heq]
  simp [session, hreadable]

/-- `handleWrite` drops what has been written, and where nothing was the session does nothing. -/
lemma Plays.handleWrite {written : Option ℕ} (h : Plays t s)
    (hallowed : t.tasks = [] ∧ ∀ n ∈ written, n ≤ t.output_.readableBytes)
    (hwrite : t.handleWrite true written = .ok t') :
    (machine resourcePath_).Matches (fun _ _ => True) (Plays t') s := by
  have hwriting : s.isWriting = t.isWriting := congrArg Session.isWriting h.eq
  have houtput : s.output_ = t.output_.readable := congrArg Session.output_ h.eq
  have htasks : s.tasks = t.tasks := congrArg Session.tasks h.eq
  unfold Conversation.handleWrite at hwrite
  split at hwrite
  · rename_i hwrites
    cases hn : (if t.output_.readableBytes > 0 then written else some 0) with
    | none =>
      simp only [hn] at hwrite
      exact .stay (Except.ok.inj hwrite ▸ h)
    | some n =>
      simp only [hn] at hwrite
      obtain ⟨output, hretrieve, hwrite⟩ := except_bind_eq_ok.mp hwrite
      obtain ⟨hwf, hreadable⟩ := Buffer.retrieve_ok h.output hretrieve
      have hroom : n ≤ t.output_.readableBytes := by
        split at hn
        · exact hallowed.2 n (hn ▸ rfl)
        · rw [← Option.some.inj hn]
          exact Nat.zero_le _
      have hallowed' : allowed s (.write n) := by
        refine ⟨htasks.trans hallowed.1, by rw [hwriting, hwrites], ?_⟩
        rw [houtput, h.output.length_readable]
        exact hroom
      refine .step (k := .write n) hallowed' rfl trivial ?_
      -- the buffer is empty in both, or in neither
      have hempty : output.readableBytes = 0 ↔ t.output_.readable.drop n = [] := by
        rw [← hreadable, ← hwf.length_readable, List.length_eq_zero_iff]
      unfold HttpServer.handleWrite
      simp only [houtput]
      split at hwrite
      · rename_i hdone
        rw [if_pos (hempty.mp hdone), ← Except.ok.inj hwrite]
        refine ⟨?_, h.input, hwf⟩
        rw [h.eq]
        simp [session, hreadable]
      · rename_i hleft
        rw [if_neg fun hnil => hleft (hempty.mpr hnil), ← Except.ok.inj hwrite]
        refine ⟨?_, h.input, hwf⟩
        rw [h.eq]
        simp [session, hreadable]
  · exact .stay (Except.ok.inj hwrite ▸ h)

/-- **An event of the conversation** that slides no buffer is one of the session, or none. -/
lemma plays_step {e : Conversation.Event FileReply (Option ℕ)} (h : Plays t s)
    (hqueues : KeepsQueues resourcePath_ t e) (hallowed : t.allowed (callbacks resourcePath_) e)
    (hexec : t.exec (callbacks resourcePath_) e = .ok t') :
    (machine resourcePath_).Matches (fun _ _ => True) (Plays t') s := by
  have htasks : s.tasks = t.tasks := congrArg Session.tasks h.eq
  have hdisconnected : s.disconnected = !t.connected := congrArg Session.disconnected h.eq
  obtain ⟨⟨t₁, calls⟩, henter, hcalls⟩ := except_bind_eq_ok.mp hexec
  obtain ⟨hmeets, hinput⟩ := hqueues
  have hkeeps := hmeets t₁ calls henter
  cases e with
  | read data reply =>
    obtain ⟨hnil, hconnected, hdata, -, -⟩ := hallowed
    obtain ⟨input, hread, henter⟩ := except_bind_eq_ok.mp henter
    obtain ⟨⟨context, calls'⟩, honMsg, henter⟩ := except_bind_eq_ok.mp henter
    obtain ⟨rfl, rfl⟩ := Prod.mk.inj (Except.ok.inj henter)
    obtain ⟨s', hexec', hplays⟩ := (h.read hinput hread).onMsg honMsg hkeeps hcalls
    refine .step (k := .read data reply.fs) ⟨htasks.trans hnil, ?_, hdata⟩ hexec' trivial hplays
    rw [hdisconnected, hconnected]
    decide
  | peerClosed =>
    obtain ⟨hnil, hconnected⟩ := hallowed
    obtain ⟨rfl, rfl⟩ := Prod.mk.inj (Except.ok.inj henter)
    obtain rfl := Except.ok.inj hcalls
    refine .step (k := .peerClosed) ⟨htasks.trans hnil, ?_⟩ rfl trivial ?_
    · rw [hdisconnected, hconnected]
      decide
    · refine ⟨?_, h.input, h.output⟩
      rw [h.eq]
      rfl
  | write written =>
    obtain ⟨t₂, hwrite, henter⟩ := except_bind_eq_ok.mp henter
    obtain ⟨rfl, rfl⟩ := Prod.mk.inj (Except.ok.inj henter)
    obtain rfl := Except.ok.inj hcalls
    exact h.handleWrite hallowed hwrite
  | swap =>
    obtain ⟨rfl, rfl⟩ := Prod.mk.inj (Except.ok.inj henter)
    obtain rfl := Except.ok.inj hcalls
    refine .step (k := .swap) (htasks.trans hallowed) rfl trivial ⟨?_, h.input, h.output⟩
    rw [h.eq]
    rfl
  | writeComplete result =>
    have htasks' : s.tasks = .onWriteComplete :: t.tasks.tail :=
      htasks.trans (List.eq_cons_of_mem_head? hallowed.1)
    obtain ⟨⟨context, calls'⟩, hcallback, henter⟩ := except_bind_eq_ok.mp henter
    obtain ⟨rfl, rfl⟩ := Prod.mk.inj (Except.ok.inj henter)
    have hrest : Plays { t with tasks := t.tasks.tail } { s with tasks := t.tasks.tail } := by
      refine ⟨?_, h.input, h.output⟩
      rw [h.eq]
      rfl
    obtain ⟨s', hexec', hplays⟩ := hrest.onWriteComplete hcallback hkeeps hcalls
    have hwaits : s.tasks ≠ [] := by
      rw [htasks']
      exact List.cons_ne_nil _ _
    refine .step (k := .task (returned result)) hwaits ?_ trivial hplays
    show runTask _ s = _
    rw [runTask, htasks']
    exact hexec'
  | closeInLoop =>
    have htasks' : s.tasks = .closeInLoop :: t.tasks.tail :=
      htasks.trans (List.eq_cons_of_mem_head? hallowed)
    obtain ⟨rfl, rfl⟩ := Prod.mk.inj (Except.ok.inj henter)
    obtain rfl := Except.ok.inj hcalls
    have hwaits : s.tasks ≠ [] := by
      rw [htasks']
      exact List.cons_ne_nil _ _
    have hrun : exec resourcePath_ s (.task (-1)) =
        .ok (if s.disconnected then { s with tasks := t.tasks.tail }
          else handleClose { s with tasks := t.tasks.tail }) := by
      show runTask (-1) s = _
      rw [runTask, htasks']
      simp only
      split <;> rfl
    refine .step (k := .task (-1)) hwaits hrun trivial ?_
    rw [hdisconnected]
    cases hconnected : t.connected with
    | true =>
      refine ⟨?_, h.input, h.output⟩
      rw [h.eq]
      rfl
    | false =>
      refine ⟨?_, h.input, h.output⟩
      rw [h.eq]
      simp [session, hconnected]

lemma plays_simulation : (Conversation.machine (callbacks resourcePath_)).Simulation
    (machine resourcePath_) (KeepsQueues resourcePath_) (fun _ _ => True) Plays :=
  fun _ _ _ _ h hqueues hallowed hexec => plays_step h hqueues hallowed hexec

lemma plays_initial : Plays (.initial (callbacks resourcePath_)) {} where
  eq := by
    show ({} : Session) = _
    simp only [session, Conversation.initial, Buffer.fresh_readable]
    rfl
  input := Buffer.fresh_wf
  output := Buffer.fresh_wf

variable {c : ConnId} {size_ : ℕ} {name_ : Bytes} {server : Serving HttpContext}
  {as : List (Serving.Action FileReply (Option ℕ))}

/-- **Three machines for one connection.** Between its callbacks a connection of the server is what a
conversation leads to, and so does a run of `HttpConnection.machine`; and where no step of the
conversation slides a buffer, so does a run of `HttpServer.machine`. -/
theorem session_of_run
    (hrun : (Serving.machine (callbacks resourcePath_)).Run
      (.initial (callbacks resourcePath_) size_ name_) as server)
    (hfew : (Serving.machine (callbacks resourcePath_)).AllSteps Serving.Few
      (.initial (callbacks resourcePath_) size_ name_) as)
    (hup : server.tcp.Up c) (hrest : server.rest c = []) :
    ∃ es, (Conversation.machine (callbacks resourcePath_)).Run
        (.initial (callbacks resourcePath_)) es (server.view c) ∧
      (∃ es' http, (HttpConnection.machine resourcePath_).Run {} es' http ∧
        HttpConnection.Mirrors (server.view c) http) ∧
      ((Conversation.machine (callbacks resourcePath_)).AllSteps (KeepsQueues resourcePath_)
          (.initial (callbacks resourcePath_)) es →
        ∃ es' s, (machine resourcePath_).Run {} es' s ∧ Plays (server.view c) s) := by
  obtain ⟨es, t, hes, -, rfl⟩ :=
    Serving.view_of_run hrun (Serving.allSteps_few hrun hfew) hup hrest
  refine ⟨es, hes, HttpConnection.mirrors_of_run hes, fun hqueues => ?_⟩
  obtain ⟨es', s, hes', -, hplays⟩ := plays_simulation.run hes hqueues plays_initial
  exact ⟨es', s, hes', hplays⟩

end HttpServer
end Miniduo
