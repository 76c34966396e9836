import Miniduo.BufferTheorems
import Miniduo.Http.HttpConnection
import Miniduo.Http.ResponseTheorems

/-!
# Sending a file

The bytes of a file response are in three places: on the socket, in the output buffer and in the
file behind its position, in this order. A write-complete task waits only while the buffer is empty,
so `sendfile` moves bytes from the third place to the first without overtaking the second.
-/

namespace Miniduo

/-! ## What `loadResponse` builds -/

namespace HttpServer

variable {resourcePath_ : Bytes} {reply : FileReply} {req : HttpRequest} {resp resp' : HttpResponse}

/-- A file response holds its headers and the block that was read, and is complete at once when
that is the whole file. -/
lemma loadResponse_file (h : loadResponse resourcePath_ reply.fs req {} .fileRequest = .ok resp') :
    ∃ n, reply.count = some n ∧ 0 < reply.fd ∧ resp'.filefd_ = reply.fd ∧
      resp'.headers_ = HttpResponse.builtHeaders 200 (toInt reply.content.length) ∧
      resp'.body_ = reply.content.take n ∧
      (resp'.respComplete_ = true → reply.content.length ≤ n) := by
  obtain ⟨_, hfd, h⟩ := except_bind_eq_ok.mp h
  have hfd : 0 < reply.fd := assertThat_eq_ok.mp hfd
  simp only [FileReply.fs] at h
  cases hcount : reply.count with
  | none =>
    rw [hcount] at h
    cases h
  | some n =>
    rw [hcount, Option.map_some] at h
    cases htake : reply.content.take n with
    | nil =>
      rw [htake] at h
      obtain rfl := Except.ok.inj h
      exact ⟨n, rfl, hfd, rfl, HttpResponse.headers_of_calls _ _ _, htake.symm,
        fun hcomplete => nomatch hcomplete⟩
    | cons c buf =>
      rw [htake] at h
      obtain rfl := Except.ok.inj h
      refine ⟨n, rfl, hfd, rfl, HttpResponse.headers_of_calls _ _ _, htake.symm,
        fun hcomplete => ?_⟩
      have hlen := congrArg List.length htake
      rw [List.length_take] at hlen
      have hcomplete : (!decide (((c :: buf).length : ℤ) < reply.content.length)) = true :=
        hcomplete
      -- `respComplete_` is set where the block is not shorter than the file
      rw [Bool.not_eq_true', decide_eq_false_iff_not] at hcomplete
      omega

end HttpServer

/-! ## The output buffer of a first response -/

namespace Buffer

/-- `append` before anything is retrieved. -/
lemma append_unread {b b' : Buffer} {data : Bytes} (h : b.WF)
    (hreader : b.readerIndex_ = kCheapPrepend) (hlen : data.length ≤ maxSize)
    (happend : b.append data = .ok b') :
    b'.WF ∧ b'.readerIndex_ = kCheapPrepend ∧ b'.readable = b.readable ++ data := by
  have hs := not_slides_unread hreader data.length
  exact ⟨append_wf h hlen happend, (append_readerIndex happend hs).trans hreader,
    append_ok h hlen happend hs⟩

/-- `append` of nothing. -/
lemma append_nil {b b' : Buffer} (h : b.WF) (happend : b.append [] = .ok b') :
    b'.WF ∧ b'.readable = b.readable := by
  have hread := append_ok h (Nat.zero_le _) happend (not_slides_zero b)
  rw [List.append_nil] at hread
  exact ⟨append_wf h (Nat.zero_le _) happend, hread⟩

lemma readable_eq_nil {b : Buffer} (h : b.WF) : b.readable = [] ↔ b.readableBytes = 0 := by
  rw [← h.length_readable, List.length_eq_zero_iff]

end Buffer

namespace HttpConnection

open HttpServer

variable {resourcePath_ : Bytes} {s s' : HttpConnection}

/-! ## What the callbacks change -/

/-- A write goes to the buffer and asks for a write event. -/
lemma sendInLoop_frame {msg : Bytes} (h : s.sendInLoop msg = .ok s') :
    ∃ output isWriting, s' = { s with output_ := output, isWriting := isWriting } ∧
      (s.connected = false → isWriting = s.isWriting) := by
  rw [sendInLoop] at h
  split at h
  · rename_i hconnected
    obtain ⟨output, _, h⟩ := except_bind_eq_ok.mp h
    obtain rfl := Except.ok.inj h
    exact ⟨output, true, rfl, fun hnot => by simp [hnot] at hconnected⟩
  · obtain rfl := Except.ok.inj h
    exact ⟨s.output_, s.isWriting, rfl, fun _ => rfl⟩

lemma sendResponse_frame (h : s.sendResponse = .ok s') :
    ∃ output isWriting, s' = { s with output_ := output, isWriting := isWriting } ∧
      (s.connected = false → isWriting = s.isWriting) := by
  obtain ⟨s₁, h₁, h⟩ := except_bind_eq_ok.mp h
  obtain ⟨output₁, isWriting₁, rfl, hw₁⟩ := sendInLoop_frame h₁
  obtain ⟨output₂, isWriting₂, rfl, hw₂⟩ := sendInLoop_frame h
  exact ⟨output₂, isWriting₂, rfl, fun hnot => (hw₂ hnot).trans (hw₁ hnot)⟩

lemma answer_ok {retcode : HttpCode} {reply : FileReply} (hcode : retcode ≠ .fileRequest)
    (h : answer resourcePath_ reply s retcode = .ok s') :
    ∃ final resp, loadResponse resourcePath_ reply.fs s.req s.resp final = .ok resp ∧
      (final = .fileRequest → retcode = .getRequest) ∧
      (s.loaded reply final resp).sendResponse = .ok s' := by
  obtain ⟨resp, hload, h⟩ := except_bind_eq_ok.mp h
  refine ⟨_, resp, hload, fun hfile => ?_, h⟩
  by_contra hget
  rw [if_neg hget] at hfile
  exact hcode hfile

/-- `onMsg` waits for a complete request, or answers one. -/
lemma onMsg_cases {input : Bytes} {reply : FileReply}
    (h : onMsg resourcePath_ input reply s = .ok s') :
    s' = s ∨ s.req.checkstate_ ≠ .getAll ∧ ∃ req,
      s' = { s with req := req } ∨
      ∃ final resp, loadResponse resourcePath_ reply.fs req s.resp final = .ok resp ∧
        (final = .fileRequest → req.checkstate_ = .getAll) ∧
        (loaded { s with req := req } reply final resp).sendResponse = .ok s' := by
  rw [onMsg] at h
  split at h
  · exact Or.inl (Except.ok.inj h).symm
  · rename_i hstate
    refine Or.inr ⟨hstate, (s.req.tryDecode input).req, ?_⟩
    simp only at h
    split at h
    · cases h
    · rename_i retcode hresult
      split at h
      · exact Or.inl (Except.ok.inj h).symm
      · -- `tryDecode` never answers `FILE_REQUEST`: `handleRequest` does, for an accepted request
        have hcode : retcode ≠ .fileRequest := by
          rcases HttpRequest.tryDecode_code hresult with rfl | rfl | rfl <;> simp
        obtain ⟨final, resp, hload, hfile, hsend⟩ := answer_ok hcode h
        refine Or.inr ⟨final, resp, hload, fun hfinal => ?_, hsend⟩
        rw [hfile hfinal] at hresult
        exact HttpRequest.tryDecode_getRequest hresult

/-- `onWriteComplete` takes the response for complete, sends a block, or finds nothing to do. -/
lemma onWriteComplete_cases {result : Option ℕ} (h : onWriteComplete result s = .ok s') :
    s.resp.respComplete_ = true ∧ s' = s.finishResponse ∨
    s.resp.respComplete_ = false ∧
      (s.req.checkstate_ = .getAll ∧
        ((∃ n, result = some (n + 1) ∧
          (sendfile { s with
            sendfiles := s.sendfiles ++ [(s.completions.length, s.output_.readableBytes)] }
              (n + 1)).sendInLoop [] = .ok s') ∨
        (result = none ∨ result = some 0) ∧
          s' = finishResponse { s with
            sendfiles := s.sendfiles ++ [(s.completions.length, s.output_.readableBytes)] }) ∨
      s.req.checkstate_ ≠ .getAll ∧ s' = s) := by
  rw [onWriteComplete] at h
  split at h
  · rename_i hcomplete
    exact Or.inl ⟨hcomplete, (Except.ok.inj h).symm⟩
  · rename_i hcomplete
    refine Or.inr ⟨by simpa using hcomplete, ?_⟩
    split at h
    · rename_i hstate
      refine Or.inl ⟨hstate, ?_⟩
      obtain ⟨_, _, h⟩ := except_bind_eq_ok.mp h
      cases result with
      | none => exact Or.inr ⟨Or.inl rfl, (Except.ok.inj h).symm⟩
      | some n =>
        cases n with
        | zero => exact Or.inr ⟨Or.inr rfl, (Except.ok.inj h).symm⟩
        | succ n => exact Or.inl ⟨n, rfl, h⟩
    · rename_i hstate
      exact Or.inr ⟨hstate, (Except.ok.inj h).symm⟩

/-! ## The invariant -/

/-- Nothing has been answered yet. -/
structure Unanswered (s : HttpConnection) : Prop where
  resp : s.resp = {}
  output : s.output_ = .fresh
  isWriting : s.isWriting = false
  quiet : ¬s.WriteCompleteWaits
  socket : s.socket = []
  sendfiles : s.sendfiles = []
  completions : s.completions = []

/-- The file response has been built and not been cleared. -/
structure Sending (s : HttpConnection) : Prop where
  state : s.req.checkstate_ = .getAll
  wf : s.output_.WF
  stream : s.socket ++ s.output_.readable ++ s.file.drop s.position = s.resp.headers_ ++ s.file
  inside : s.position ≤ s.file.length
  complete : s.resp.respComplete_ = true → s.position = s.file.length
  drained : s.WriteCompleteWaits → s.output_.readable = []

/-- The first response of the connection, which is for a file. -/
structure FileFirst (s : HttpConnection) : Prop where
  sending : s.completions = [] → s.Sending
  sendfiles : ∀ call ∈ s.sendfiles, call.1 = 0 → call.2 = 0

structure TransferInv (s : HttpConnection) : Prop where
  unanswered : s.retcodes = [] → s.Unanswered
  fileFirst : s.retcodes.head? = some .fileRequest → s.FileFirst

/-- Sending both parts of the first response puts them into the buffer. -/
lemma sendResponse_first (hconnected : s.connected = true) (houtput : s.output_ = .fresh)
    (hheaders : s.resp.headers_.length ≤ maxSize) (hbody : s.resp.body_.length ≤ maxSize)
    (h : s.sendResponse = .ok s') :
    ∃ output, s' = { s with output_ := output, isWriting := true } ∧ output.WF ∧
      output.readable = s.resp.headers_ ++ s.resp.body_ := by
  obtain ⟨s₁, h₁, h⟩ := except_bind_eq_ok.mp h
  rw [sendInLoop, if_pos hconnected] at h₁
  obtain ⟨output₁, happend₁, h₁⟩ := except_bind_eq_ok.mp h₁
  obtain rfl := Except.ok.inj h₁
  rw [sendInLoop, if_pos hconnected] at h
  obtain ⟨output₂, happend₂, h⟩ := except_bind_eq_ok.mp h
  obtain rfl := Except.ok.inj h
  rw [houtput] at happend₁
  obtain ⟨hwf₁, hreader₁, hread₁⟩ :=
    Buffer.append_unread Buffer.fresh_wf rfl hheaders happend₁
  obtain ⟨hwf₂, -, hread₂⟩ := Buffer.append_unread hwf₁ hreader₁ hbody happend₂
  refine ⟨output₂, rfl, hwf₂, ?_⟩
  rw [hread₂, hread₁, Buffer.fresh_readable, List.nil_append]

/-- The first answer: when it is a file, all of the response is in the buffer and in the file. -/
lemma sending_first {req : HttpRequest} {reply : FileReply} {resp : HttpResponse}
    (hun : s.Unanswered) (hconnected : s.connected = true) (hregular : reply.Regular)
    (hload : loadResponse resourcePath_ reply.fs req s.resp .fileRequest = .ok resp)
    (hstate : req.checkstate_ = .getAll)
    (hsend : (loaded { s with req := req } reply .fileRequest resp).sendResponse = .ok s') :
    s'.Sending := by
  rw [hun.resp] at hload
  obtain ⟨n, hcount, _, _, hheaders, hbody, hcomplete⟩ := loadResponse_file hload
  obtain ⟨hsize, hinside, _⟩ := hregular n hcount
  -- both parts fit, so neither `append` can fault
  have hheaders_le : resp.headers_.length ≤ maxSize := by
    rw [hheaders, HttpResponse.length_builtHeaders, maxSize]
    omega
  have hbody_le : resp.body_.length ≤ maxSize := by
    rw [hbody, List.length_take, maxSize]
    rw [BUFFER_SIZE] at hsize
    omega
  obtain ⟨output, rfl, hwf, hread⟩ :=
    sendResponse_first (s := loaded { s with req := req } reply .fileRequest resp) hconnected
      hun.output hheaders_le hbody_le hsend
  have hposition : reply.count.getD 0 = n := by rw [hcount, Option.getD_some]
  constructor
  · exact hstate
  · exact hwf
  · show s.socket ++ output.readable ++ reply.content.drop (reply.count.getD 0) = _
    rw [hun.socket, hread, hposition, List.nil_append, List.append_assoc]
    show resp.headers_ ++ (resp.body_ ++ _) = resp.headers_ ++ reply.content
    rw [hbody, List.take_append_drop]
  · show reply.count.getD 0 ≤ reply.content.length
    rw [hposition]
    exact hinside
  · intro hdone
    show reply.count.getD 0 = reply.content.length
    rw [hposition]
    exact le_antisymm hinside (hcomplete hdone)
  · exact fun hwaits => absurd hwaits hun.quiet

/-- A write moves bytes from the buffer to the socket. -/
lemma Sending.handleWrite {written : Option ℕ} (h : s.Sending)
    (hexec : handleWrite written s = .ok s') : s'.Sending := by
  rw [HttpConnection.handleWrite] at hexec
  split at hexec
  · split at hexec
    · obtain rfl := Except.ok.inj hexec
      exact h
    · rename_i n _
      obtain ⟨output, hretrieve, hexec⟩ := except_bind_eq_ok.mp hexec
      obtain ⟨hwf, hread⟩ := Buffer.retrieve_ok h.wf hretrieve
      -- the bytes written move from the front of the buffer to the end of the socket
      have hstream : s.socket ++ s.output_.readable.take n ++ output.readable ++
          s.file.drop s.position = s.resp.headers_ ++ s.file := by
        rw [hread, List.append_assoc s.socket, List.take_append_drop]
        exact h.stream
      split at hexec
      · rename_i hempty
        obtain rfl := Except.ok.inj hexec
        exact ⟨h.state, hwf, hstream, h.inside, h.complete,
          fun _ => (Buffer.readable_eq_nil hwf).mpr hempty⟩
      · obtain rfl := Except.ok.inj hexec
        refine ⟨h.state, hwf, hstream, h.inside, h.complete, fun hwaits => ?_⟩
        show output.readable = []
        -- a write-complete task waits only behind an empty buffer, which stays empty
        rw [hread, h.drained hwaits, List.drop_nil]
  · obtain rfl := Except.ok.inj hexec
    exact h

/-- `sendfile` moves bytes from the file to the socket when the buffer is empty. -/
lemma Sending.sendfile {n : ℕ} (h : s.Sending) (hdrained : s.output_.readable = [])
    (hinside : s.position + n ≤ s.file.length) (hcomplete : s.resp.respComplete_ = false) :
    (s.sendfile n).Sending where
  state := h.state
  wf := h.wf
  stream := by
    have hstream := h.stream
    rw [hdrained, List.append_nil] at hstream
    show s.socket ++ (s.file.drop s.position).take n ++ s.output_.readable ++
      s.file.drop (s.position + n) = _
    -- with nothing in the buffer the bytes of the file join those on the socket
    rw [hdrained, List.append_nil, List.append_assoc, ← List.drop_drop, List.take_append_drop]
    exact hstream
  inside := hinside
  complete hdone := by
    have hdone : s.resp.respComplete_ = true := hdone
    rw [hcomplete] at hdone
    cases hdone
  drained _ := hdrained

/-- An empty message leaves the buffer as it is. -/
lemma Sending.sendInLoop_nil (h : s.Sending) (hsend : s.sendInLoop [] = .ok s') : s'.Sending := by
  rw [sendInLoop] at hsend
  split at hsend
  · obtain ⟨output, happend, hsend⟩ := except_bind_eq_ok.mp hsend
    obtain rfl := Except.ok.inj hsend
    obtain ⟨hwf, hread⟩ := Buffer.append_nil h.wf happend
    constructor
    · exact h.state
    · exact hwf
    · show s.socket ++ output.readable ++ _ = _
      rw [hread]
      exact h.stream
    · exact h.inside
    · exact h.complete
    · intro hwaits
      show output.readable = []
      rw [hread]
      exact h.drained hwaits
  · obtain rfl := Except.ok.inj hsend
    exact h

/-- Where nothing is left in the buffer and in the file, everything is on the socket. -/
lemma Sending.socket_eq (h : s.Sending) (hdrained : s.output_.readable = [])
    (hend : s.position = s.file.length) : s.socket = s.resp.headers_ ++ s.file := by
  have hstream := h.stream
  rwa [hdrained, hend, List.drop_length, List.append_nil, List.append_nil] at hstream

lemma Sending.isPrefix_socket (h : s.Sending) : s.socket <+: s.resp.headers_ ++ s.file := by
  rw [← h.stream, List.append_assoc]
  exact List.prefix_append _ _

/-! ## Steps -/

lemma finishResponse_frame (s : HttpConnection) :
    ∃ pendingTasks_, s.finishResponse = { s with
        completions := s.completions ++ [⟨s.peerClosed, s.socket, s.resp.headers_, s.file⟩]
        descriptors :=
          if s.resp.filefd_ ≠ -1 then s.descriptors ++ [.closed s.resp.filefd_] else s.descriptors
        req := s.req.clear
        resp := s.resp.clear
        pendingTasks_ := pendingTasks_ } ∧
      (.onWriteComplete ∈ pendingTasks_ ↔ .onWriteComplete ∈ s.pendingTasks_) := by
  rw [finishResponse]
  simp only
  split
  · exact ⟨_, rfl, by simp⟩
  · exact ⟨_, rfl, Iff.rfl⟩

lemma handleWrite_frame {written : Option ℕ} (h : handleWrite written s = .ok s') :
    ∃ output isWriting pendingTasks_ socket, s' = { s with
      output_ := output, isWriting := isWriting, pendingTasks_ := pendingTasks_,
      socket := socket } ∧ (s.isWriting = false → s' = s) := by
  rw [handleWrite] at h
  split at h
  · rename_i hwriting
    have hnot : ∀ {P : Prop}, s.isWriting = false → P := by
      intro P hfalse
      rw [hfalse] at hwriting
      cases hwriting
    split at h
    · obtain rfl := Except.ok.inj h
      exact ⟨_, _, _, _, rfl, fun _ => rfl⟩
    · obtain ⟨output, _, h⟩ := except_bind_eq_ok.mp h
      split at h <;> (obtain rfl := Except.ok.inj h; exact ⟨_, _, _, _, rfl, hnot⟩)
  · obtain rfl := Except.ok.inj h
    exact ⟨_, _, _, _, rfl, fun _ => rfl⟩

/-- Interest, tasks and the ends of the connection change, the response and its bytes do not. -/
def Quiet (s s' : HttpConnection) : Prop :=
  (∃ connected isWriting tasks pendingTasks_ peerClosed destroyed, s' = { s with
    connected := connected, isWriting := isWriting, tasks := tasks,
    pendingTasks_ := pendingTasks_, peerClosed := peerClosed, destroyed := destroyed }) ∧
  (s.isWriting = false → s'.isWriting = false) ∧ (s'.WriteCompleteWaits → s.WriteCompleteWaits)

lemma quiet_disconnect (s : HttpConnection) : s.Quiet s.disconnect :=
  ⟨⟨_, _, _, _, _, _, rfl⟩, fun _ => rfl, id⟩

lemma Sending.quiet (h : s.Sending) (hquiet : s.Quiet s') : s'.Sending := by
  obtain ⟨⟨_, _, _, _, _, _, rfl⟩, _, hwaits⟩ := hquiet
  exact ⟨h.state, h.wf, h.stream, h.inside, h.complete, fun hw => h.drained (hwaits hw)⟩

lemma TransferInv.quiet (h : s.TransferInv) (hquiet : s.Quiet s') : s'.TransferInv := by
  have hsending := fun hs : s.Sending => hs.quiet hquiet
  obtain ⟨⟨_, _, _, _, _, _, rfl⟩, hwriting, hwaits⟩ := hquiet
  constructor
  · intro hnil
    have hun := h.unanswered hnil
    exact ⟨hun.resp, hun.output, hwriting hun.isWriting, fun hw => hun.quiet (hwaits hw),
      hun.socket, hun.sendfiles, hun.completions⟩
  · intro hhead
    have hfirst := h.fileFirst hhead
    exact ⟨fun hnil => hsending (hfirst.sending hnil), hfirst.sendfiles⟩

lemma quiet_tail {task : SessionTask} {tasks : List SessionTask} (htasks : s.tasks = task :: tasks) :
    s.Quiet { s with tasks := tasks } := by
  refine ⟨⟨_, _, _, _, _, _, rfl⟩, id, fun hwaits => ?_⟩
  rw [WriteCompleteWaits, htasks]
  exact List.mem_cons_of_mem _ hwaits

lemma transferInv_read {input : Bytes} {reply : FileReply} (h : s.TransferInv)
    (hregular : reply.Regular) (hconnected : s.connected = true)
    (hexec : onMsg resourcePath_ input reply s = .ok s') : s'.TransferInv := by
  rcases onMsg_cases hexec with rfl | ⟨hstate, req, rfl | ⟨final, resp, hload, hget, hsend⟩⟩
  · exact h
  · constructor
    · intro hnil
      have hun := h.unanswered hnil
      exact ⟨hun.resp, hun.output, hun.isWriting, hun.quiet, hun.socket, hun.sendfiles,
        hun.completions⟩
    · intro hhead
      have hfirst := h.fileFirst hhead
      exact ⟨fun hnil => absurd (hfirst.sending hnil).state hstate, hfirst.sendfiles⟩
  · have hsent := hsend
    obtain ⟨output, isWriting, rfl, _⟩ := sendResponse_frame hsend
    have hretcodes : (loaded { s with req := req } reply final resp).retcodes
        = s.retcodes ++ [final] := rfl
    have hsendfiles : (loaded { s with req := req } reply final resp).sendfiles
        = s.sendfiles := by
      rw [loaded]
      split <;> rfl
    have hcompletions : (loaded { s with req := req } reply final resp).completions
        = s.completions := by
      rw [loaded]
      split <;> rfl
    constructor
    · intro hnil
      simp [hretcodes] at hnil
    · intro hhead
      simp only [hretcodes] at hhead
      by_cases hfirst : s.retcodes = []
      · -- the first answer
        have hun := h.unanswered hfirst
        rw [hfirst, List.nil_append, List.head?_cons, Option.some.injEq] at hhead
        subst hhead
        refine ⟨fun _ => sending_first hun hconnected hregular hload (hget rfl) hsent, ?_⟩
        intro call hcall
        rw [hsendfiles, hun.sendfiles] at hcall
        exact absurd hcall List.not_mem_nil
      · rw [List.head?_append_of_ne_nil _ hfirst] at hhead
        have hfile := h.fileFirst hhead
        refine ⟨fun hnil => ?_, ?_⟩
        · -- a response that is being sent leaves no request to answer
          rw [hcompletions] at hnil
          exact absurd (hfile.sending hnil).state hstate
        · rw [hsendfiles]
          exact hfile.sendfiles

lemma transferInv_write {written : Option ℕ} (h : s.TransferInv)
    (hexec : handleWrite written s = .ok s') : s'.TransferInv := by
  have hsending := fun hs : s.Sending => hs.handleWrite hexec
  obtain ⟨output, isWriting, pendingTasks_, socket, rfl, hidle⟩ := handleWrite_frame hexec
  constructor
  · intro hnil
    rw [hidle (h.unanswered hnil).isWriting]
    exact h.unanswered hnil
  · intro hhead
    have hfirst := h.fileFirst hhead
    exact ⟨fun hnil => hsending (hfirst.sending hnil), hfirst.sendfiles⟩

/-- A response that is finished: only the calls of `sendfile` are still of interest. -/
lemma TransferInv.finish (h : s.TransferInv) (hanswered : s.retcodes ≠ []) :
    s.finishResponse.TransferInv := by
  obtain ⟨pendingTasks_, heq, _⟩ := finishResponse_frame s
  rw [heq]
  constructor
  · exact fun hnil => absurd hnil hanswered
  · intro hhead
    refine ⟨fun hnil => ?_, (h.fileFirst hhead).sendfiles⟩
    simp at hnil

/-- The call of `sendfile` in a write-complete task. -/
lemma TransferInv.callSendfile (h : s.TransferInv) (hanswered : s.retcodes ≠ [])
    (hdrained : s.retcodes.head? = some .fileRequest → s.completions = [] →
      s.output_.readable = []) :
    TransferInv { s with
      sendfiles := s.sendfiles ++ [(s.completions.length, s.output_.readableBytes)] } := by
  constructor
  · exact fun hnil => absurd hnil hanswered
  · intro hhead
    have hfirst := h.fileFirst hhead
    constructor
    · intro hnil
      have hs := hfirst.sending hnil
      exact ⟨hs.state, hs.wf, hs.stream, hs.inside, hs.complete, hs.drained⟩
    · intro call hcall hzero
      rcases List.mem_append.mp hcall with hcall | hcall
      · exact hfirst.sendfiles call hcall hzero
      · -- the new call, if no response is complete yet, is one of the first response
        rw [List.mem_singleton.mp hcall] at hzero ⊢
        have hnil := List.length_eq_zero_iff.mp hzero
        exact (Buffer.readable_eq_nil (hfirst.sending hnil).wf).mp (hdrained hhead hnil)

lemma transferInv_task {result : Option ℕ} (h : s.TransferInv)
    (hreturns : s.SendfileReturns result) (hexec : runTask result s = .ok s') :
    s'.TransferInv := by
  rw [runTask] at hexec
  split at hexec
  · obtain rfl := Except.ok.inj hexec
    exact h
  · rename_i tasks htasks
    have hwaits : s.WriteCompleteWaits := by
      rw [WriteCompleteWaits, htasks]
      exact List.mem_cons_self
    have hanswered : s.retcodes ≠ [] := fun hnil => (h.unanswered hnil).quiet hwaits
    have h₀ := h.quiet (quiet_tail htasks)
    have hdrained : s.retcodes.head? = some .fileRequest → s.completions = [] →
        s.output_.readable = [] :=
      fun hhead hnil => ((h.fileFirst hhead).sending hnil).drained hwaits
    rcases onWriteComplete_cases hexec with
      ⟨_, rfl⟩ | ⟨hcomplete, ⟨_, ⟨n, rfl, hsend⟩ | ⟨_, rfl⟩⟩ | ⟨_, rfl⟩⟩
    · exact h₀.finish hanswered
    · -- a block of the file, then an empty message
      have hcall := h₀.callSendfile hanswered hdrained
      obtain ⟨_, hinside, _⟩ := hreturns (n + 1) rfl
      obtain ⟨output, isWriting, heq, _⟩ := sendInLoop_frame hsend
      constructor
      · intro hnil
        rw [heq] at hnil
        exact absurd hnil hanswered
      · intro hhead
        rw [heq] at hhead
        have hfirst := hcall.fileFirst hhead
        constructor
        · intro hnil
          rw [heq] at hnil
          exact ((hfirst.sending hnil).sendfile (hdrained hhead hnil) hinside
            hcomplete).sendInLoop_nil hsend
        · rw [heq]
          exact hfirst.sendfiles
    · exact (h₀.callSendfile hanswered hdrained).finish hanswered
    · exact h₀
  · rename_i tasks htasks
    have h₀ := h.quiet (quiet_tail htasks)
    split at hexec
    · obtain rfl := Except.ok.inj hexec
      exact h₀.quiet (quiet_disconnect _)
    · obtain rfl := Except.ok.inj hexec
      exact h₀

lemma transferInv_step {e : Event} (h : s.TransferInv) (hallowed : allowed s e)
    (hexec : exec resourcePath_ s e = .ok s') : s'.TransferInv := by
  cases e with
  | read input reply =>
    obtain ⟨_, _, hconnected, hregular⟩ := hallowed
    exact transferInv_read h hregular hconnected hexec
  | write written => exact transferInv_write h hexec
  | task result => exact transferInv_task h hallowed.2.2 hexec
  | peerClosed =>
    obtain rfl := Except.ok.inj hexec
    exact h.quiet ⟨⟨_, _, _, _, _, _, rfl⟩, fun _ => rfl, id⟩
  | swap =>
    obtain rfl := Except.ok.inj hexec
    refine h.quiet ⟨⟨_, _, _, _, _, _, rfl⟩, id, fun hwaits => ?_⟩
    rw [WriteCompleteWaits, hallowed.2]
    rwa [WriteCompleteWaits, List.append_nil] at hwaits
  | close =>
    obtain rfl := Except.ok.inj hexec
    refine h.quiet ⟨⟨_, _, _, _, _, _, rfl⟩, id, fun hwaits => ?_⟩
    simpa [WriteCompleteWaits] using hwaits
  | teardown =>
    obtain rfl := Except.ok.inj hexec
    exact h.quiet (quiet_disconnect s)
  | destroy =>
    obtain rfl := Except.ok.inj hexec
    exact h.quiet ⟨⟨_, _, _, _, _, _, rfl⟩, id, id⟩

lemma transferInv_start : ({} : HttpConnection).TransferInv where
  unanswered _ := ⟨rfl, rfl, rfl, by decide, rfl, rfl, rfl⟩
  fileFirst hhead := nomatch hhead

/-- **`sendfile` never overtakes the buffer.** In every run of a connection whose first answer is a
file, `sendfile` is called with an empty output buffer, and the socket has a prefix of the headers
and the file, until the response is cleared. -/
theorem socket_prefix_of_run {es : List Event} (hrun : (machine resourcePath_).Run {} es s)
    (hfile : s.retcodes.head? = some .fileRequest) :
    (∀ call ∈ s.sendfiles, call.1 = 0 → call.2 = 0) ∧
      (s.completions = [] → s.socket <+: s.resp.headers_ ++ s.file) := by
  have hinv := hrun.preserves transferInv_start fun _ _ _ h => transferInv_step h
  have hfirst := hinv.fileFirst hfile
  exact ⟨hfirst.sendfiles, fun hnil => (hfirst.sending hnil).isPrefix_socket⟩

/-- A file of four bytes, of which `read` stores two. -/
def fourBytes : FileReply :=
  { stat := some ⟨true, false⟩, fd := 7, content := [1, 2, 3, 4], count := some 2 }

def getFile : Bytes := lit "GET /f HTTP/1.1\r\n\r\n"

/-- The headers leave in two writes; then a block of the file goes out by `sendfile`. -/
def transferRun : List Event :=
  [.read getFile fourBytes, .write (some 100), .write none, .write (some 6046), .swap,
    .task (some 1)]

theorem socket_prefix_transferRun :
    ∃ s, (machine []).Run {} transferRun s ∧ s.retcodes.head? = some .fileRequest ∧
      ((∀ call ∈ s.sendfiles, call.1 = 0 → call.2 = 0) ∧
        (s.completions = [] → s.socket <+: s.resp.headers_ ++ s.file)) := by
  obtain ⟨s, hrun, hs⟩ := Machine.Run.of_replay_map (machine []) {} transferRun
    (fun s => s.retcodes.head? = some .fileRequest) (by decide +kernel)
  have hfile := of_decide_eq_true hs
  exact ⟨s, hrun, hfile, socket_prefix_of_run hrun hfile⟩

/-! ## When a response is taken for complete -/

/-- The first response that is taken for complete has been sent. -/
def FirstSent (s : HttpConnection) : Prop :=
  ∀ c, s.completions.head? = some c → c.peerClosed = false → c.socket = c.headers_ ++ c.file

/-- The next step calls `sendfile`, which returns -1. -/
def SendfileFails (s : HttpConnection) : Event → Prop
  | .task none =>
    s.tasks.head? = some .onWriteComplete ∧ s.resp.respComplete_ = false ∧
      s.req.checkstate_ = .getAll
  | _ => False

/-- While the peer is there, `sendfile` fails for the first response at the end of the file only. -/
def FailsAtEnd (s : HttpConnection) (e : Event) : Prop :=
  s.SendfileFails e → s.completions = [] → s.peerClosed = false → s.position = s.file.length

/-- The record that `finishResponse` leaves. -/
def completion (s : HttpConnection) : Completion :=
  ⟨s.peerClosed, s.socket, s.resp.headers_, s.file⟩

/-- What a step adds to the records: a code when `onMsg` answers, a completion when the response is
complete or `sendfile` puts nothing on the socket. -/
lemma exec_records {e : Event} (hexec : exec resourcePath_ s e = .ok s') :
    (s'.retcodes = s.retcodes ∨ ∃ code, s'.retcodes = s.retcodes ++ [code]) ∧
      (s'.completions = s.completions ∨
        s'.retcodes = s.retcodes ∧ s'.completions = s.completions ++ [s.completion] ∧
        s.WriteCompleteWaits ∧
        (s.resp.respComplete_ = true ∨ s.SendfileFails e ∨ e = .task (some 0))) := by
  cases e with
  | read input reply =>
    rcases onMsg_cases hexec with rfl | ⟨_, req, rfl | ⟨final, resp, _, _, hsend⟩⟩
    · exact ⟨Or.inl rfl, Or.inl rfl⟩
    · exact ⟨Or.inl rfl, Or.inl rfl⟩
    · obtain ⟨output, isWriting, rfl, _⟩ := sendResponse_frame hsend
      refine ⟨Or.inr ⟨final, rfl⟩, Or.inl ?_⟩
      rw [loaded]
      split <;> rfl
  | write written =>
    obtain ⟨output, isWriting, pendingTasks_, socket, rfl, _⟩ := handleWrite_frame hexec
    exact ⟨Or.inl rfl, Or.inl rfl⟩
  | task result =>
    have hexec : runTask result s = .ok s' := hexec
    rw [runTask] at hexec
    split at hexec
    · obtain rfl := Except.ok.inj hexec
      exact ⟨Or.inl rfl, Or.inl rfl⟩
    · rename_i tasks htasks
      have hwaits : s.WriteCompleteWaits := by
        rw [WriteCompleteWaits, htasks]
        exact List.mem_cons_self
      rcases onWriteComplete_cases hexec with
        ⟨hcomplete, rfl⟩ | ⟨hcomplete, ⟨hstate, ⟨n, rfl, hsend⟩ | ⟨hresult, rfl⟩⟩ | ⟨_, rfl⟩⟩
      · obtain ⟨pendingTasks_, heq, _⟩ := finishResponse_frame { s with tasks := tasks }
        rw [heq]
        exact ⟨Or.inl rfl, Or.inr ⟨rfl, rfl, hwaits, Or.inl hcomplete⟩⟩
      · obtain ⟨output, isWriting, rfl, _⟩ := sendInLoop_frame hsend
        exact ⟨Or.inl rfl, Or.inl rfl⟩
      · obtain ⟨pendingTasks_, heq, _⟩ := finishResponse_frame { s with
          tasks := tasks
          sendfiles := s.sendfiles ++ [(s.completions.length, s.output_.readableBytes)] }
        rw [heq]
        refine ⟨Or.inl rfl, Or.inr ⟨rfl, rfl, hwaits, Or.inr ?_⟩⟩
        rcases hresult with rfl | rfl
        · exact Or.inl ⟨by rw [htasks, List.head?_cons], hcomplete, hstate⟩
        · exact Or.inr rfl
      · exact ⟨Or.inl rfl, Or.inl rfl⟩
    · split at hexec <;> (obtain rfl := Except.ok.inj hexec; exact ⟨Or.inl rfl, Or.inl rfl⟩)
  | peerClosed | swap | close | teardown | destroy =>
    obtain rfl := Except.ok.inj hexec
    exact ⟨Or.inl rfl, Or.inl rfl⟩

/-- A transfer in which the first file response has been sent when it is taken for complete. -/
def SentInv (s : HttpConnection) : Prop :=
  s.TransferInv ∧ (s.retcodes.head? = some .fileRequest → s.FirstSent)

/-- Taken for complete, the first response has left the buffer and the file. -/
lemma Sending.finished {e : Event} (h : s.Sending) (hfails : s.FailsAtEnd e)
    (hallowed : allowed s e) (hnil : s.completions = []) (hpeer : s.peerClosed = false)
    (hwaits : s.WriteCompleteWaits)
    (hfinish : s.resp.respComplete_ = true ∨ s.SendfileFails e ∨ e = .task (some 0)) :
    s.socket = s.resp.headers_ ++ s.file := by
  apply h.socket_eq (h.drained hwaits)
  rcases hfinish with hcomplete | hfails' | rfl
  · exact h.complete hcomplete
  · exact hfails hfails' hnil hpeer
  · obtain ⟨_, _, hend⟩ := hallowed.2.2 0 rfl
    exact hend rfl

lemma sentInv_step {e : Event} (h : s.SentInv) (hfails : s.FailsAtEnd e) (hallowed : allowed s e)
    (hexec : exec resourcePath_ s e = .ok s') : s'.SentInv := by
  obtain ⟨hinv, hsent⟩ := h
  refine ⟨transferInv_step hinv hallowed hexec, fun hhead c hc hpeer => ?_⟩
  obtain ⟨hcodes, hcompletions⟩ := exec_records hexec
  by_cases hnil : s.completions = []
  · -- the completion is of this step
    rcases hcompletions with heq | ⟨heq, hcompletion, hwaits, hfinish⟩
    · rw [heq, hnil] at hc
      cases hc
    · rw [heq] at hhead
      rw [hcompletion, hnil, List.nil_append, List.head?_cons, Option.some.injEq] at hc
      subst hc
      exact ((hinv.fileFirst hhead).sending hnil).finished hfails hallowed hnil hpeer hwaits
        hfinish
  · -- it is of an earlier one, and so is the answer
    have hfirst : s'.completions.head? = s.completions.head? := by
      rcases hcompletions with heq | ⟨_, heq, _⟩
      · rw [heq]
      · rw [heq, List.head?_append_of_ne_nil _ hnil]
    have hanswered : s.retcodes ≠ [] := fun hcodes => hnil (hinv.unanswered hcodes).completions
    have hcode : s'.retcodes.head? = s.retcodes.head? := by
      rcases hcodes with heq | ⟨code, heq⟩
      · rw [heq]
      · rw [heq, List.head?_append_of_ne_nil _ hanswered]
    rw [hcode] at hhead
    rw [hfirst] at hc
    exact hsent hhead c hc hpeer

/-- **A finished file response has been sent**, in every run in which `sendfile` returns -1 for it
only at the end of the file. -/
theorem firstSent_of_failsAtEnd {es : List Event} (hrun : (machine resourcePath_).Run {} es s)
    (hsteps : (machine resourcePath_).AllSteps FailsAtEnd {} es)
    (hfile : s.retcodes.head? = some .fileRequest) : s.FirstSent :=
  (hrun.invariant hsteps ⟨transferInv_start, fun hhead => nomatch hhead⟩
    fun _ _ _ h hfails => sentInv_step h hfails).2 hfile

instance (s : HttpConnection) : ∀ e, Decidable (s.SendfileFails e)
  | .task none => inferInstanceAs (Decidable (_ ∧ _ ∧ _))
  | .task (some _) | .read .. | .peerClosed | .write _ | .swap | .close | .teardown | .destroy =>
    isFalse id

instance (s : HttpConnection) (e : Event) : Decidable (s.FailsAtEnd e) := by
  unfold FailsAtEnd
  infer_instance

/-- The rest of the file goes out in two calls of `sendfile`, the third one finds its end. -/
def wholeTransferRun : List Event :=
  [.read getFile fourBytes, .write (some 6146), .swap, .task (some 1), .write none, .swap,
    .task (some 1), .write none, .swap, .task (some 0)]

theorem firstSent_wholeTransferRun :
    ∃ s, (machine []).Run {} wholeTransferRun s ∧
      (machine []).AllSteps FailsAtEnd {} wholeTransferRun ∧ s.FirstSent := by
  -- one evaluation of the run for both
  have hreplay : ((machine []).replay {} wholeTransferRun).map
      (fun s => decide (s.retcodes.head? = some .fileRequest)) = some true ∧
        (machine []).AllSteps FailsAtEnd {} wholeTransferRun := by
    decide +kernel
  obtain ⟨hend, hsteps⟩ := hreplay
  obtain ⟨s, hrun, hs⟩ := Machine.Run.of_replay_map _ _ _ _ hend
  exact ⟨s, hrun, hsteps, firstSent_of_failsAtEnd hrun hsteps (of_decide_eq_true hs)⟩

/-- `sendfile` returns -1, as it does when the socket is full, before the last two bytes. -/
def cutTransferRun : List Event :=
  [.read getFile fourBytes, .write (some 6146), .swap, .task none]

/-- A run ends with a first file response that is complete without having been sent. -/
theorem not_firstSent : ¬∀ es s, (machine []).Run {} es s →
    s.retcodes.head? = some .fileRequest → s.FirstSent := by
  intro h
  obtain ⟨s, hrun, hs⟩ := Machine.Run.of_replay_map (machine []) {} cutTransferRun
    (fun s => s.retcodes.head? = some .fileRequest ∧
      ∃ c ∈ s.completions.head?, c.peerClosed = false ∧
        c.socket.length < c.headers_.length + c.file.length)
    (by decide +kernel)
  obtain ⟨hfile, c, hc, hpeer, hshort⟩ := of_decide_eq_true hs
  have hsent := h _ s hrun hfile c hc hpeer
  rw [hsent, List.length_append] at hshort
  exact absurd hshort (lt_irrefl _)

end HttpConnection
end Miniduo
