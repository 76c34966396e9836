import Miniduo.Http.HttpServer
import Miniduo.Http.ChunkTheorems

/-!
# Responses of a connection

A request that is answered leaves its response in `resp` until a write-complete task clears it, and
only `GET_ALL` keeps the decoder from reading on. `one_response_iff` says which runs of a connection
send one response: those that read nothing to answer once a request has been answered.
-/

namespace Miniduo
namespace HttpServer

/-- The response to an answered request: what `loadResponse` builds in a cleared `HttpResponse`. -/
def Answer.response (resourcePath_ : Bytes) (a : Answer) : Bytes :=
  match loadResponse resourcePath_ a.fs a.req {} a.retcode with
  | .ok resp => resp.headers_ ++ resp.body_
  | .error _ => []

/-- The bytes sent are the responses to the answered requests, in order, and no second request has
been answered. -/
structure OneResponse (resourcePath_ : Bytes) (s : Session) : Prop where
  bytes : s.sent.flatten = (s.answers.map (Answer.response resourcePath_)).flatten
  single : s.answers.length ≤ 1

/-- `onMsg` has something to answer: the last request is not complete, and the bytes do more than
leave the decoder waiting. -/
def Answers (s : Session) : Event → Prop
  | .read data _ => s.req.checkstate_ ≠ .getAll ∧ ¬s.req.Waits (s.input_ ++ data)
  | _ => False

/-- Nothing is there to answer once a request has been answered. -/
def FirstOrWaits (s : Session) (e : Event) : Prop := s.answers = [] ∨ ¬Answers s e

/-! ## One call -/

section
variable {resourcePath_ : Bytes} {fs : FileSystem} {s s' : Session}

lemma send_sent (s : Session) (msg : Bytes) : (send s msg).sent = s.sent ++ [msg] := by
  unfold send
  simp only
  split <;> rfl

lemma send_answers (s : Session) (msg : Bytes) : (send s msg).answers = s.answers := by
  unfold send
  simp only
  split <;> rfl

lemma send_resp (s : Session) (msg : Bytes) : (send s msg).resp = s.resp := by
  unfold send
  simp only
  split <;> rfl

/-- The decoder answers `NO_REQUEST` for a complete request and where it waits. -/
lemma decodeHttpRequest_spec {retcode : HttpCode} (h : decodeHttpRequest s = .ok (retcode, s')) :
    (retcode = .noRequest ↔ ¬(s.req.checkstate_ ≠ .getAll ∧ ¬s.req.Waits s.input_)) ∧
      s'.sent = s.sent ∧ s'.answers = s.answers ∧ s'.resp = s.resp := by
  unfold decodeHttpRequest at h
  by_cases hstate : s.req.checkstate_ = .getAll
  · rw [if_pos hstate, Except.ok.injEq, Prod.mk.injEq] at h
    obtain ⟨rfl, rfl⟩ := h
    simp [hstate]
  · rw [if_neg hstate] at h
    cases hresult : (s.req.tryDecode s.input_).result with
    | error e => simp [hresult] at h
    | ok code =>
      simp only [hresult, Except.ok.injEq, Prod.mk.injEq] at h
      obtain ⟨rfl, rfl⟩ := h
      simp [HttpRequest.waits_iff, hresult, hstate]

/-- What one `onMsg` sends: nothing when there is nothing to answer, else the response as it stands
with that of this request put behind it. -/
lemma onMsg_spec (h : onMsg resourcePath_ fs s = .ok s') :
    (¬(s.req.checkstate_ ≠ .getAll ∧ ¬s.req.Waits s.input_) ∧
      s'.sent = s.sent ∧ s'.answers = s.answers ∧ s'.resp = s.resp) ∨
    (s.req.checkstate_ ≠ .getAll ∧ ¬s.req.Waits s.input_) ∧ ∃ a resp,
      loadResponse resourcePath_ a.fs a.req s.resp a.retcode = .ok resp ∧
      s'.sent.flatten = s.sent.flatten ++ (resp.headers_ ++ resp.body_) ∧
      s'.answers = s.answers ++ [a] := by
  unfold onMsg at h
  obtain ⟨⟨retcode, s₁⟩, hdecode, h⟩ := except_bind_eq_ok.mp h
  obtain ⟨hno, hsent, hanswers, hresp⟩ := decodeHttpRequest_spec hdecode
  simp only at h
  by_cases hcode : retcode = .noRequest
  · rw [if_pos hcode] at h
    obtain rfl : s₁ = s' := Except.ok.inj h
    exact Or.inl ⟨hno.mp hcode, hsent, hanswers, hresp⟩
  · rw [if_neg hcode] at h
    -- a complete request is looked up; its code does not matter for what is sent
    generalize (if retcode = .getRequest then _ else retcode) = code at h
    obtain ⟨resp, hload, h⟩ := except_bind_eq_ok.mp h
    have hs' := Except.ok.inj h
    refine Or.inr ⟨by_contra fun hc => hcode (hno.mpr hc), ⟨code, s₁.req, fs⟩, resp, ?_, ?_, ?_⟩
    · rw [← hresp]
      exact hload
    · rw [← hs']
      simp [sendResponse, send_sent, hsent]
    · rw [← hs']
      simp [sendResponse, send_answers, hanswers]

/-- `onWriteComplete` sends no bytes, and leaves a cleared response as it is. -/
lemma onWriteComplete_spec {sendfile : ℤ} (h : onWriteComplete sendfile s = .ok s') :
    s'.sent.flatten = s.sent.flatten ∧ s'.answers = s.answers ∧ (s.resp = {} → s'.resp = {}) := by
  have hfinish : (finishResponse s).sent = s.sent ∧ (finishResponse s).answers = s.answers ∧
      (finishResponse s).resp = {} := by
    unfold finishResponse
    simp only
    split <;> exact ⟨rfl, rfl, rfl⟩
  unfold onWriteComplete at h
  split at h
  · obtain rfl := Except.ok.inj h
    exact ⟨by rw [hfinish.1], hfinish.2.1, fun _ => hfinish.2.2⟩
  · split at h
    · obtain ⟨_, _, h⟩ := except_bind_eq_ok.mp h
      split at h
      · -- `conn->send("")` only asks for another write event
        obtain rfl := Except.ok.inj h
        exact ⟨by simp [send_sent], send_answers _ _, fun hresp => by rw [send_resp, hresp]⟩
      · obtain rfl := Except.ok.inj h
        exact ⟨by rw [hfinish.1], hfinish.2.1, fun _ => hfinish.2.2⟩
    · obtain rfl := Except.ok.inj h
      exact ⟨rfl, rfl, id⟩

end

/-! ## One event -/

/-- What one event does to the bytes sent, to the answered requests and to a cleared response. -/
lemma exec_spec {resourcePath_ : Bytes} {s s' : Session} {e : Event}
    (h : exec resourcePath_ s e = .ok s') :
    (¬Answers s e ∧ s'.sent.flatten = s.sent.flatten ∧ s'.answers = s.answers ∧
      (s.resp = {} → s'.resp = {})) ∨
    Answers s e ∧ ∃ a resp, loadResponse resourcePath_ a.fs a.req s.resp a.retcode = .ok resp ∧
      s'.sent.flatten = s.sent.flatten ++ (resp.headers_ ++ resp.body_) ∧
      s'.answers = s.answers ++ [a] := by
  cases e with
  | read data fs =>
    rcases onMsg_spec h with ⟨hno, hsent, hanswers, hresp⟩ | ⟨hyes, a, resp, hload, hsent, hanswers⟩
    · refine Or.inl ⟨hno, by rw [hsent], hanswers, fun hclear => ?_⟩
      rw [hresp]
      exact hclear
    · exact Or.inr ⟨hyes, a, resp, hload, hsent, hanswers⟩
  | peerClosed =>
    obtain rfl := Except.ok.inj h
    exact Or.inl ⟨id, rfl, rfl, id⟩
  | write n =>
    obtain rfl := Except.ok.inj h
    left
    unfold handleWrite
    simp only
    split <;> exact ⟨id, rfl, rfl, id⟩
  | swap =>
    obtain rfl := Except.ok.inj h
    exact Or.inl ⟨id, rfl, rfl, id⟩
  | task sendfile =>
    left
    have h : runTask sendfile s = .ok s' := h
    unfold runTask at h
    split at h
    · obtain rfl := Except.ok.inj h
      exact ⟨id, rfl, rfl, id⟩
    · obtain ⟨hsent, hanswers, hresp⟩ := onWriteComplete_spec h
      exact ⟨id, hsent, hanswers, hresp⟩
    · split at h
      · obtain rfl := Except.ok.inj h
        exact ⟨id, rfl, rfl, id⟩
      · obtain rfl := Except.ok.inj h
        exact ⟨id, rfl, rfl, id⟩

/-! ## Whole runs -/

/-- Up to the first answer nothing is sent and the response is cleared; up to the second, the bytes
sent are the first response. -/
def SentInv (resourcePath_ : Bytes) (s : Session) : Prop :=
  s.answers = [] ∧ s.sent.flatten = [] ∧ s.resp = {} ∨
    (∃ a, s.answers = [a] ∧ s.sent.flatten = a.response resourcePath_) ∨ 2 ≤ s.answers.length

lemma sentInv_step {resourcePath_ : Bytes} {s s' : Session} {e : Event}
    (hinv : SentInv resourcePath_ s) (h : exec resourcePath_ s e = .ok s') :
    SentInv resourcePath_ s' := by
  rcases exec_spec h with ⟨_, hsent, hanswers, hresp⟩ | ⟨_, a, resp, hload, hsent, hanswers⟩
  · rcases hinv with ⟨hnone, hempty, hclear⟩ | ⟨a, hone, hbytes⟩ | htwo
    · exact Or.inl ⟨by rw [hanswers, hnone], by rw [hsent, hempty], hresp hclear⟩
    · exact Or.inr (Or.inl ⟨a, by rw [hanswers, hone], by rw [hsent, hbytes]⟩)
    · exact Or.inr (Or.inr (by rw [hanswers]; exact htwo))
  · rcases hinv with ⟨hnone, hempty, hclear⟩ | ⟨a₁, hone, _⟩ | htwo
    · -- the first response is built in a cleared `HttpResponse`
      refine Or.inr (Or.inl ⟨a, by rw [hanswers, hnone, List.nil_append], ?_⟩)
      rw [hclear] at hload
      rw [hsent, hempty, List.nil_append, Answer.response, hload]
    · refine Or.inr (Or.inr ?_)
      rw [hanswers, hone]
      exact le_refl 2
    · refine Or.inr (Or.inr ?_)
      rw [hanswers, List.length_append]
      omega

/-- A run answers at most one request iff it reads nothing to answer behind the first one. -/
lemma answers_le_one_iff {resourcePath_ : Bytes} {es : List Event} {s s' : Session}
    (h : (machine resourcePath_).Run s es s') :
    s'.answers.length ≤ 1 ↔
      s.answers.length ≤ 1 ∧ (machine resourcePath_).AllSteps FirstOrWaits s es := by
  induction h with
  | nil s => exact (and_iff_left trivial).symm
  | @cons s s₁ s' e es hallowed hexec hrest ih =>
    -- the rest of the run starts in the one state that the step reaches
    have hsteps : (∀ s₂, (machine resourcePath_).exec s e = .ok s₂ →
        (machine resourcePath_).AllSteps FirstOrWaits s₂ es) ↔
          (machine resourcePath_).AllSteps FirstOrWaits s₁ es := by
      constructor
      · intro hall
        exact hall s₁ hexec
      · intro hall s₂ hexec'
        rw [hexec, Except.ok.injEq] at hexec'
        exact hexec' ▸ hall
    have hfirst : s₁.answers.length ≤ 1 ↔ s.answers.length ≤ 1 ∧ FirstOrWaits s e := by
      unfold FirstOrWaits
      rcases exec_spec hexec with ⟨hno, _, hanswers, _⟩ | ⟨hyes, a, _, _, _, hanswers⟩
      · simp [hanswers, hno]
      · have hlen : s.answers = [] ↔ s.answers.length = 0 := List.length_eq_zero_iff.symm
        simp only [hanswers, List.length_append, List.length_singleton, hyes, not_true_eq_false,
          or_false, hlen]
        omega
    rw [ih, hfirst, and_assoc]
    exact and_congr_right fun _ => and_congr_right fun _ => hsteps.symm

/-- **One response.** From a cleared connection, a run sends exactly the response to the one request
that it answers iff, once a request has been answered, every `onMsg` finds that request complete or
leaves the decoder waiting. -/
theorem one_response_iff {resourcePath_ : Bytes} {es : List Event} {s : Session}
    (h : (machine resourcePath_).Run {} es s) :
    OneResponse resourcePath_ s ↔ (machine resourcePath_).AllSteps FirstOrWaits {} es := by
  have hinv : SentInv resourcePath_ s :=
    h.preserves (Or.inl ⟨rfl, rfl, rfl⟩) fun s e s' hinv _ hexec => sentInv_step hinv hexec
  have hcount := answers_le_one_iff h
  have hstart : ([] : List Answer).length ≤ 1 := Nat.zero_le 1
  constructor
  · intro hone
    exact (hcount.mp hone.single).2
  · intro hsteps
    have hle := hcount.mpr ⟨hstart, hsteps⟩
    refine ⟨?_, hle⟩
    -- no answer and nothing sent, or one answer and its bytes
    rcases hinv with ⟨hnone, hempty, _⟩ | ⟨a, hone, hbytes⟩ | htwo
    · rw [hnone, hempty]
      rfl
    · rw [hone, hbytes]
      simp
    · omega

/-- A file system without files. -/
def noFiles : FileSystem := ⟨fun _ => none, fun _ => -1, fun _ => 0, fun _ => none⟩

/-- A complete request, and bytes behind it before its response has been written. -/
theorem one_response_of_getAll :
    ∃ s, (machine []).Run {} [.read (lit "GET / HTTP/1.1\r\n\r\n") noFiles,
        .read (lit "x\r\n") noFiles] s ∧ OneResponse [] s := by
  have hcount : ((machine []).replay {} [.read (lit "GET / HTTP/1.1\r\n\r\n") noFiles,
      .read (lit "x\r\n") noFiles]).map (·.answers.length) = some 1 := by decide
  have hstate : ((machine []).exec {} (.read (lit "GET / HTTP/1.1\r\n\r\n") noFiles)).map
      (·.req.checkstate_) = .ok .getAll := by decide
  obtain ⟨s, hs, -⟩ := Option.map_eq_some_iff.mp hcount
  have hrun := Machine.Run.of_replay hs
  refine ⟨s, hrun, (one_response_iff hrun).mpr ⟨Or.inl rfl, fun s₁ hexec => ⟨Or.inr ?_, ?_⟩⟩⟩
  · intro h
    rw [hexec] at hstate
    exact h.1 (Except.ok.inj hstate)
  · intro _ _
    trivial

/-- A request line that is refused leaves the decoder ready to refuse the next one, behind the
response that is still there. -/
theorem two_responses :
    ¬∀ (resourcePath_ : Bytes) (es : List Event) (s : Session),
      (machine resourcePath_).Run {} es s → OneResponse resourcePath_ s := by
  intro h
  have hcount : ((machine []).replay {} [.read (lit "x\r\n") noFiles,
      .read (lit "y\r\n") noFiles]).map (·.answers.length) = some 2 := by decide
  obtain ⟨s, hs, htwo⟩ := Option.map_eq_some_iff.mp hcount
  have hone := (h [] _ s (Machine.Run.of_replay hs)).single
  omega

end HttpServer
end Miniduo
