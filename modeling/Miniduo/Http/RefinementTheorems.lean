import Miniduo.ConversationTheorems
import Miniduo.Http.HttpCallbacks
import Miniduo.Http.ResponseTheorems

/-!
# Conversations with `HttpServer`

A conversation with the callbacks of `HttpServer` is a run of `HttpConnection.machine`: the one has
the input buffer and the calls, the other the records of what has happened to files and responses.
So what is known of a connection of `HttpConnection.lean` holds of each connection of a server with
any number of loops (`refines_of_run`).
-/

namespace Miniduo

open HttpServer (SessionTask callbacks)

namespace HttpConnection

variable {resourcePath_ : Bytes} {s s' : HttpConnection} {t t' : Conversation HttpContext}
  {input : Buffer} {received : Bytes}

/-- What the connection has of its `HttpContext`. -/
def context (s : HttpConnection) : HttpContext := ⟨s.req, s.resp, s.file, s.position⟩

/-- The conversation that the connection is, with an input buffer and the bytes received. -/
def mirror (s : HttpConnection) (input : Buffer) (received : Bytes) : Conversation HttpContext where
  context := s.context
  connected := s.connected
  isWriting := s.isWriting
  input_ := input
  output_ := s.output_
  pendingTasks_ := s.pendingTasks_
  tasks := s.tasks
  socket := s.socket
  received := received

/-- The conversation and the connection have come to the same. -/
def Mirrors (t : Conversation HttpContext) (s : HttpConnection) : Prop :=
  t = s.mirror t.input_ t.received ∧ s.destroyed = false

/-- A connection is mirrored by its own conversation until it is destroyed. -/
lemma mirrors_mirror (h : s.destroyed = false) : Mirrors (s.mirror input received) s := ⟨rfl, h⟩

/-! ## Calls -/

/-- `send` does the same in the conversation and on the connection. -/
lemma mirror_send {msg : Bytes} (h : (s.mirror input received).call (.send msg) = .ok t') :
    ∃ s', s.sendInLoop msg = .ok s' ∧ t' = s'.mirror input received ∧ s'.resp = s.resp ∧
      s'.destroyed = s.destroyed := by
  rw [Conversation.call] at h
  rw [sendInLoop]
  split at h
  · rename_i hconnected
    have hconnected : s.connected = true := hconnected
    obtain ⟨output, happend, h⟩ := except_bind_eq_ok.mp h
    have happend : s.output_.append msg = .ok output := happend
    rw [if_pos hconnected, happend]
    exact ⟨_, rfl, (Except.ok.inj h).symm, rfl, rfl⟩
  · rename_i hconnected
    have hconnected : ¬s.connected = true := hconnected
    rw [if_neg hconnected]
    exact ⟨s, rfl, (Except.ok.inj h).symm, rfl, rfl⟩

/-- `retrieve` is about the input buffer, which the connection does not have. -/
lemma mirror_retrieve {len : ℕ} (h : (s.mirror input received).call (.retrieve len) = .ok t') :
    ∃ input', t' = s.mirror input' received := by
  obtain ⟨input', -, h⟩ := except_bind_eq_ok.mp h
  exact ⟨input', (Except.ok.inj h).symm⟩

/-! ## Callbacks -/

/-- A response is loaded in the context. -/
lemma mirror_loaded {reply : FileReply} {retcode : HttpCode} {resp : HttpResponse} :
    (s.loaded reply retcode resp).mirror input received =
      { s.mirror input received with context := s.context.loaded reply retcode resp } := by
  unfold loaded HttpContext.loaded
  split <;> rfl

/-- The context after a response is loaded. -/
lemma context_loaded {reply : FileReply} {retcode : HttpCode} {resp : HttpResponse} :
    (s.loaded reply retcode resp).context = s.context.loaded reply retcode resp := by
  unfold loaded HttpContext.loaded
  split <;> rfl

lemma loaded_destroyed {reply : FileReply} {retcode : HttpCode} {resp : HttpResponse} :
    (s.loaded reply retcode resp).destroyed = s.destroyed := by
  unfold loaded
  split <;> rfl

/-- The answer is sent behind what the callback takes out of the input buffer. -/
lemma mirror_answer {reply : FileReply} {retcode : HttpCode} {context : HttpContext} {len : ℕ}
    (h : s.context.answer resourcePath_ reply retcode = .ok context)
    (hcalls : { s.mirror input received with context := context }.calls
      [.retrieve len, .send context.resp.headers_, .send context.resp.body_] = .ok t') :
    ∃ s' input', s.answer resourcePath_ reply retcode = .ok s' ∧ t' = s'.mirror input' received ∧
      s'.destroyed = s.destroyed := by
  obtain ⟨resp, hload, h⟩ := except_bind_eq_ok.mp h
  generalize hcode : (if retcode = .getRequest then
    HttpServer.handleRequest resourcePath_ reply.fs s.context.req else retcode) = retcode' at hload h
  obtain rfl := (Except.ok.inj h).symm
  -- three calls: the input buffer, then headers and body to the output buffer
  rw [← mirror_loaded] at hcalls
  obtain ⟨t₁, hretrieve, hcalls⟩ := except_bind_eq_ok.mp hcalls
  obtain ⟨t₂, hheaders, hcalls⟩ := except_bind_eq_ok.mp hcalls
  obtain ⟨t₃, hbody, hcalls⟩ := except_bind_eq_ok.mp hcalls
  obtain rfl := Except.ok.inj hcalls
  obtain ⟨input', rfl⟩ := mirror_retrieve hretrieve
  have hresp : (s.context.loaded reply retcode' resp).resp = (s.loaded reply retcode' resp).resp :=
    congrArg HttpContext.resp context_loaded.symm
  obtain ⟨s₁, hsend, rfl, hresp₁, hdestroyed₁⟩ := mirror_send hheaders
  obtain ⟨s₂, hsend', rfl, -, hdestroyed₂⟩ := mirror_send hbody
  refine ⟨s₂, input', ?_, rfl, hdestroyed₂.trans (hdestroyed₁.trans loaded_destroyed)⟩
  rw [hresp] at hsend hsend'
  have hload : HttpServer.loadResponse resourcePath_ reply.fs s.req s.resp retcode' = .ok resp :=
    hload
  have hcode : (if retcode = .getRequest then
    HttpServer.handleRequest resourcePath_ reply.fs s.req else retcode) = retcode' := hcode
  rw [answer]
  simp only [hcode, hload, except_ok_bind, sendResponse, hsend, hresp₁, hsend']

/-- `onMsg` followed by its calls is `onMsg` of the connection. -/
lemma mirror_onMsg {reply : FileReply} {bytes : Bytes} {context : HttpContext} {calls : List Call}
    (h : s.context.onMsg resourcePath_ reply bytes = .ok (context, calls))
    (hcalls : { s.mirror input received with context := context }.calls calls = .ok t') :
    ∃ s' input', onMsg resourcePath_ bytes reply s = .ok s' ∧ t' = s'.mirror input' received ∧
      s'.destroyed = s.destroyed := by
  unfold HttpContext.onMsg at h
  unfold onMsg
  split at h
  · rename_i hstate
    have hstate : s.req.checkstate_ = .getAll := hstate
    obtain ⟨rfl, rfl⟩ := Prod.mk.inj (Except.ok.inj h)
    rw [if_pos hstate]
    exact ⟨s, input, rfl, (Except.ok.inj hcalls).symm, rfl⟩
  · rename_i hstate
    have hstate : ¬s.req.checkstate_ = .getAll := hstate
    rw [if_neg hstate]
    simp only at h ⊢
    split at h
    · cases h
    · rename_i retcode hresult
      have hresult : (s.req.tryDecode bytes).result = .ok retcode := hresult
      simp only [hresult]
      -- the decoder waits for more bytes, or the request is answered
      split at h
      · rename_i hcode
        obtain ⟨rfl, rfl⟩ := Prod.mk.inj (Except.ok.inj h)
        obtain ⟨t₁, hretrieve, hcalls⟩ := except_bind_eq_ok.mp hcalls
        obtain rfl := Except.ok.inj hcalls
        rw [if_pos hcode]
        obtain ⟨input', rfl⟩ :=
          mirror_retrieve (s := { s with req := (s.req.tryDecode bytes).req }) hretrieve
        exact ⟨_, input', rfl, rfl, rfl⟩
      · rename_i hcode
        obtain ⟨context', hanswer, h⟩ := except_bind_eq_ok.mp h
        obtain ⟨rfl, rfl⟩ := Prod.mk.inj (Except.ok.inj h)
        rw [if_neg hcode]
        exact mirror_answer (s := { s with req := (s.req.tryDecode bytes).req }) hanswer hcalls

/-- `finishResponse` destroys no connection. -/
lemma finishResponse_destroyed : s.finishResponse.destroyed = s.destroyed := by
  unfold finishResponse
  simp only
  split <;> rfl

/-- `finishResponse` followed by its calls is that of the connection. -/
lemma mirror_finish
    (hcalls : { s.mirror input received with context := s.context.finishResponse.1 }.calls
      s.context.finishResponse.2 = .ok t') : t' = s.finishResponse.mirror input received := by
  have hcontext : s.context.finishResponse = ({ s.context with
      req := s.req.clear, resp := s.resp.clear }, if s.resp.closeConnection_ then [.close] else []) :=
    rfl
  rw [hcontext] at hcalls
  unfold finishResponse
  cases hclose : s.resp.closeConnection_ with
  | true =>
    simp only [hclose, if_true] at hcalls ⊢
    exact (Except.ok.inj hcalls).symm
  | false =>
    simp only [hclose, Bool.false_eq_true, if_false] at hcalls ⊢
    exact (Except.ok.inj hcalls).symm

/-- `onWriteComplete` calls `sendfile`. -/
def calledSendfile (s : HttpConnection) : HttpConnection :=
  { s with sendfiles := s.sendfiles ++ [(s.completions.length, s.output_.readableBytes)] }

/-- `onWriteComplete` followed by its calls is `onWriteComplete` of the connection. -/
lemma mirror_onWriteComplete {result : Option ℕ} {context : HttpContext} {calls : List Call}
    (h : s.context.onWriteComplete result = .ok (context, calls))
    (hcalls : { s.mirror input received with context := context }.calls calls = .ok t') :
    ∃ s', onWriteComplete result s = .ok s' ∧ t' = s'.mirror input received ∧
      s'.destroyed = s.destroyed := by
  unfold HttpContext.onWriteComplete at h
  unfold onWriteComplete
  split at h
  · rename_i hcomplete
    have hcomplete : s.resp.respComplete_ = true := hcomplete
    obtain ⟨rfl, rfl⟩ := Prod.mk.inj (Except.ok.inj h)
    rw [if_pos hcomplete]
    exact ⟨_, rfl, mirror_finish hcalls, finishResponse_destroyed⟩
  · rename_i hcomplete
    have hcomplete : ¬s.resp.respComplete_ = true := hcomplete
    rw [if_neg hcomplete]
    split at h
    · rename_i hstate
      have hstate : s.req.checkstate_ = .getAll := hstate
      obtain ⟨_, hopen, h⟩ := except_bind_eq_ok.mp h
      have hopen : assertThat (s.resp.filefd_ > 0) = .ok () := hopen
      rw [if_pos hstate, hopen, except_ok_bind]
      simp only
      have hfinish : s.context.finishResponse = (context, calls) →
          t' = s.calledSendfile.finishResponse.mirror input received := by
        intro h
        obtain ⟨rfl, rfl⟩ := Prod.mk.inj h
        exact mirror_finish (s := s.calledSendfile) hcalls
      have hdestroyed : s.calledSendfile.finishResponse.destroyed = s.destroyed :=
        finishResponse_destroyed (s := s.calledSendfile)
      -- `sendfile` has failed, found the end of the file, or sent bytes of it
      cases result with
      | none => exact ⟨_, rfl, hfinish (Except.ok.inj h), hdestroyed⟩
      | some n =>
        cases n with
        | zero => exact ⟨_, rfl, hfinish (Except.ok.inj h), hdestroyed⟩
        | succ n =>
          obtain ⟨rfl, rfl⟩ := Prod.mk.inj (Except.ok.inj h)
          obtain ⟨t₁, hsendfile, hcalls⟩ := except_bind_eq_ok.mp hcalls
          obtain ⟨t₂, hsend, hcalls⟩ := except_bind_eq_ok.mp hcalls
          obtain rfl := Except.ok.inj hcalls
          obtain rfl := Except.ok.inj hsendfile
          obtain ⟨s', hsend', rfl, -, hdestroyed⟩ :=
            mirror_send (s := s.calledSendfile.sendfile (n + 1)) hsend
          exact ⟨s', hsend', rfl, hdestroyed⟩
    · rename_i hstate
      have hstate : ¬s.req.checkstate_ = .getAll := hstate
      obtain ⟨rfl, rfl⟩ := Prod.mk.inj (Except.ok.inj h)
      rw [if_neg hstate]
      exact ⟨s, rfl, (Except.ok.inj hcalls).symm, rfl⟩

/-! ## Every event, every run -/

/-- `handleWrite` does the same in the conversation and on the connection. -/
lemma mirror_handleWrite {written : Option ℕ}
    (h : (s.mirror input received).handleWrite true written = .ok t') :
    ∃ s', handleWrite written s = .ok s' ∧ t' = s'.mirror input received ∧
      s'.destroyed = s.destroyed := by
  unfold Conversation.handleWrite at h
  unfold handleWrite
  split at h
  · rename_i hwriting
    have hwriting : s.isWriting = true := hwriting
    rw [if_pos hwriting]
    have houtput : (s.mirror input received).output_ = s.output_ := rfl
    rw [houtput] at h
    cases hn : (if s.output_.readableBytes > 0 then written else some 0) with
    | none =>
      simp only [hn] at h ⊢
      exact ⟨s, rfl, (Except.ok.inj h).symm, rfl⟩
    | some n =>
      simp only [hn] at h ⊢
      obtain ⟨output, hretrieve, h⟩ := except_bind_eq_ok.mp h
      simp only [hretrieve, except_ok_bind]
      split at h
      · rename_i hdone
        rw [if_pos hdone]
        exact ⟨_, rfl, (Except.ok.inj h).symm, rfl⟩
      · rename_i hleft
        rw [if_neg hleft]
        exact ⟨_, rfl, (Except.ok.inj h).symm, rfl⟩
  · rename_i hidle
    have hidle : ¬s.isWriting = true := hidle
    rw [if_neg hidle]
    exact ⟨s, rfl, (Except.ok.inj h).symm, rfl⟩

/-- **An event of the conversation** is one of the connection. -/
lemma mirrors_step {e : Conversation.Event FileReply (Option ℕ)} (h : Mirrors t s)
    (hallowed : t.allowed (callbacks resourcePath_) e)
    (hexec : t.exec (callbacks resourcePath_) e = .ok t') :
    ∃ e' s', allowed s e' ∧ exec resourcePath_ s e' = .ok s' ∧ Mirrors t' s' := by
  obtain ⟨ht, halive⟩ := h
  generalize t.input_ = input, t.received = received at ht
  subst ht
  have halive : ¬s.destroyed = true := by simp [halive]
  have hmirrors : ∀ s' input' received', t' = s'.mirror input' received' →
      s'.destroyed = s.destroyed → Mirrors t' s' := by
    rintro s' input' received' rfl hdestroyed
    exact mirrors_mirror (hdestroyed.trans (Bool.not_eq_true _ ▸ halive))
  obtain ⟨⟨t₁, calls⟩, henter, hcalls⟩ := except_bind_eq_ok.mp hexec
  cases e with
  | read data reply =>
    obtain ⟨htasks, hconnected, -, hregular, -⟩ := hallowed
    obtain ⟨input', hread, henter⟩ := except_bind_eq_ok.mp henter
    obtain ⟨⟨context, calls'⟩, honMsg, henter⟩ := except_bind_eq_ok.mp henter
    obtain ⟨rfl, rfl⟩ := Prod.mk.inj (Except.ok.inj henter)
    have hcalls : { s.mirror input' (received ++ data) with context := context }.calls calls' =
      .ok t' := hcalls
    obtain ⟨s', input'', hexec', ht', hdestroyed⟩ := mirror_onMsg honMsg hcalls
    exact ⟨.read input'.readable reply, s', ⟨halive, htasks, hconnected, hregular⟩, hexec',
      hmirrors _ _ _ ht' hdestroyed⟩
  | peerClosed =>
    obtain ⟨htasks, hconnected⟩ := hallowed
    obtain ⟨rfl, rfl⟩ := Prod.mk.inj (Except.ok.inj henter)
    exact ⟨.peerClosed, _, ⟨halive, htasks, hconnected⟩, rfl,
      hmirrors _ input received (Except.ok.inj hcalls).symm rfl⟩
  | write written =>
    obtain ⟨htasks, hwritten⟩ := hallowed
    obtain ⟨t₂, hwrite, henter⟩ := except_bind_eq_ok.mp henter
    obtain ⟨rfl, rfl⟩ := Prod.mk.inj (Except.ok.inj henter)
    obtain rfl := Except.ok.inj hcalls
    obtain ⟨s', hexec', ht', hdestroyed⟩ := mirror_handleWrite hwrite
    exact ⟨.write written, s', ⟨halive, htasks, hwritten⟩, hexec', hmirrors _ _ _ ht' hdestroyed⟩
  | swap =>
    obtain ⟨rfl, rfl⟩ := Prod.mk.inj (Except.ok.inj henter)
    exact ⟨.swap, _, ⟨halive, hallowed⟩, rfl,
      hmirrors _ input received (Except.ok.inj hcalls).symm rfl⟩
  | writeComplete result =>
    obtain ⟨hhead, hreturns⟩ := hallowed
    have htasks : s.tasks = .onWriteComplete :: s.tasks.tail := List.eq_cons_of_mem_head? hhead
    obtain ⟨⟨context, calls'⟩, hcallback, henter⟩ := except_bind_eq_ok.mp henter
    obtain ⟨rfl, rfl⟩ := Prod.mk.inj (Except.ok.inj henter)
    obtain ⟨s', hexec', ht', hdestroyed⟩ :=
      mirror_onWriteComplete (s := { s with tasks := s.tasks.tail }) hcallback hcalls
    refine ⟨.task result, s', ⟨halive, by rw [htasks]; nofun, hreturns⟩, ?_,
      hmirrors _ _ _ ht' hdestroyed⟩
    rw [exec, runTask, htasks]
    exact hexec'
  | closeInLoop =>
    -- a task of the connection, for which what `sendfile` returns does not count
    obtain ⟨tasks, htasks⟩ : ∃ tasks, s.tasks = .closeInLoop :: tasks :=
      ⟨_, List.eq_cons_of_mem_head? hallowed⟩
    have htail : (s.mirror input received).tasks.tail = tasks := by
      show s.tasks.tail = _
      rw [htasks, List.tail_cons]
    have hevent : allowed s (.task none) := ⟨halive, by rw [htasks]; nofun, nofun⟩
    obtain ⟨rfl, rfl⟩ := Prod.mk.inj (Except.ok.inj henter)
    obtain rfl := Except.ok.inj hcalls
    cases hconnected : s.connected with
    | true =>
      refine ⟨.task none, disconnect { s with tasks := tasks }, hevent, ?_,
        hmirrors (disconnect { s with tasks := tasks }) input received ?_ rfl⟩
      · simp only [exec, runTask, htasks, hconnected, if_true]
      · exact htail ▸ if_pos hconnected
    | false =>
      refine ⟨.task none, { s with tasks := tasks }, hevent, ?_,
        hmirrors { s with tasks := tasks } input received ?_ rfl⟩
      · simp only [exec, runTask, htasks, hconnected, Bool.false_eq_true, if_false]
      · exact htail ▸ if_neg (by simpa [mirror] using hconnected)

/-- The events of a conversation are events of a connection. -/
lemma mirrors_simulation : (Conversation.machine (callbacks resourcePath_)).Simulation
    (machine resourcePath_) (fun _ _ => True) (fun _ _ => True) Mirrors := by
  intro t s e t' h _ hallowed hexec
  obtain ⟨e', s', hallowed', hexec', h'⟩ := mirrors_step h hallowed hexec
  exact .step hallowed' hexec' trivial h'

/-- A run of a conversation is one of a connection. -/
lemma mirrors_of_run {es : List (Conversation.Event FileReply (Option ℕ))}
    (hrun : (Conversation.machine (callbacks resourcePath_)).Run (.initial (callbacks resourcePath_))
      es t) : ∃ es' http, (machine resourcePath_).Run {} es' http ∧ Mirrors t http := by
  obtain ⟨es', http, hes', -, hmirrors⟩ := mirrors_simulation.run hrun
    (.of_forall fun _ _ => trivial) (mirrors_mirror (s := {}) rfl)
  exact ⟨es', http, hes', hmirrors⟩

end HttpConnection

namespace HttpServer

variable {resourcePath_ : Bytes} {s : Serving HttpContext} {c : ConnId} {size_ : ℕ} {name_ : Bytes}
  {as : List (Serving.Action FileReply (Option ℕ))}

instance : DecidablePred (callbacks resourcePath_).Reads :=
  inferInstanceAs (DecidablePred FileReply.Regular)
instance (x : HttpContext) (y : Option ℕ) : Decidable ((callbacks resourcePath_).Returns x y) :=
  inferInstanceAs (Decidable (x.SendfileReturns y))

end HttpServer
end Miniduo
