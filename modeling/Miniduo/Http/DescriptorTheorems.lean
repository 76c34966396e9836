import Miniduo.Http.TransferTheorems

/-!
# Opened files

Only `HttpResponse::clear` closes a file. `kept_of_run` says that no descriptor is overwritten
while it is open; `filesClosed_of_releasesFile` says which runs of a connection leave no file open.
-/

namespace Miniduo

namespace HttpServer

variable {resourcePath_ : Bytes} {fs : FileSystem} {req : HttpRequest}
  {resp resp' : HttpResponse} {retcode : HttpCode}

/-- Only the response to a file request gets a descriptor. -/
lemma loadResponse_filefd (hcode : retcode ≠ .fileRequest)
    (h : loadResponse resourcePath_ fs req resp retcode = .ok resp') :
    resp'.filefd_ = resp.filefd_ := by
  cases retcode with
  | fileRequest => exact absurd rfl hcode
  | _ =>
    obtain rfl := Except.ok.inj h
    rfl

lemma loadResponse_opened (h : loadResponse resourcePath_ fs req resp .fileRequest = .ok resp') :
    0 < resp'.filefd_ ∧ resp'.filefd_ = fs.openFile (resourcePath_ ++ req.URL_) := by
  obtain ⟨_, hfd, h⟩ := except_bind_eq_ok.mp h
  have hfd : 0 < fs.openFile (resourcePath_ ++ req.URL_) := assertThat_eq_ok.mp hfd
  simp only at h
  split at h
  · cases h
  · obtain rfl := Except.ok.inj h
    exact ⟨hfd, rfl⟩
  · obtain rfl := Except.ok.inj h
    exact ⟨hfd, rfl⟩

end HttpServer

namespace HttpConnection

open HttpServer

variable {resourcePath_ : Bytes} {s s' : HttpConnection}

/-! ## The descriptors of a connection -/

/-- Every file that was opened has been closed once, before the next one was opened. -/
def Paired (log : List FdEvent) : Prop :=
  ∃ fds : List ℤ, log = fds.flatMap fun fd => [.opened fd, .closed fd]

/-- The file that the response has open. -/
def held (s : HttpConnection) : List FdEvent :=
  if s.resp.filefd_ = -1 then [] else [.opened s.resp.filefd_]

/-- What has been opened and not closed is the file that the response has open. -/
def Kept (s : HttpConnection) : Prop :=
  ∃ closed, Paired closed ∧ s.descriptors = closed ++ s.held

/-- A file is open only while a complete request waits for its response. -/
structure KeptInv (s : HttpConnection) : Prop where
  kept : s.Kept
  state : s.resp.filefd_ ≠ -1 → s.req.checkstate_ = .getAll

lemma paired_nil : Paired [] := ⟨[], rfl⟩

lemma Paired.append_pair {log : List FdEvent} (h : Paired log) (fd : ℤ) :
    Paired (log ++ [.opened fd, .closed fd]) := by
  obtain ⟨fds, rfl⟩ := h
  exact ⟨fds ++ [fd], by simp⟩

lemma held_of_eq (h : s.resp.filefd_ = -1) : s.held = [] := if_pos h

lemma held_of_ne (h : s.resp.filefd_ ≠ -1) : s.held = [.opened s.resp.filefd_] := if_neg h

/-- `onMsg` opens a file for a request that it has just completed, or leaves the files alone. -/
lemma onMsg_files {input : Bytes} {reply : FileReply}
    (h : onMsg resourcePath_ input reply s = .ok s') :
    s'.descriptors = s.descriptors ∧ s'.resp.filefd_ = s.resp.filefd_ ∧
        (s.req.checkstate_ = .getAll → s'.req.checkstate_ = .getAll) ∨
      s.req.checkstate_ ≠ .getAll ∧ s'.req.checkstate_ = .getAll ∧ 0 < s'.resp.filefd_ ∧
        s'.descriptors = s.descriptors ++ [.opened s'.resp.filefd_] := by
  rcases onMsg_cases h with rfl | ⟨hstate, req, rfl | ⟨final, resp, hload, hget, hsend⟩⟩
  · exact Or.inl ⟨rfl, rfl, id⟩
  · exact Or.inl ⟨rfl, rfl, fun hall => absurd hall hstate⟩
  · obtain ⟨output, isWriting, rfl, _⟩ := sendResponse_frame hsend
    -- only `FILE_REQUEST` opens a file
    by_cases hfinal : final = .fileRequest
    · subst hfinal
      obtain ⟨hpos, hfd⟩ := loadResponse_opened hload
      refine Or.inr ⟨hstate, hget rfl, hpos, ?_⟩
      show s.descriptors ++ [.opened reply.fd] = s.descriptors ++ [.opened resp.filefd_]
      rw [hfd]
      rfl
    · refine Or.inl ⟨?_, loadResponse_filefd hfinal hload, fun hall => absurd hall hstate⟩
      show (loaded { s with req := req } reply final resp).descriptors = s.descriptors
      rw [loaded, if_neg hfinal]

/-- What a step does to the files: nothing, it opens one, or the response is cleared. -/
lemma exec_files {e : Event} (hexec : exec resourcePath_ s e = .ok s') :
    s'.descriptors = s.descriptors ∧ s'.resp.filefd_ = s.resp.filefd_ ∧
        (s.req.checkstate_ = .getAll → s'.req.checkstate_ = .getAll) ∨
      (s.req.checkstate_ ≠ .getAll ∧ s'.req.checkstate_ = .getAll ∧ 0 < s'.resp.filefd_ ∧
        s'.descriptors = s.descriptors ++ [.opened s'.resp.filefd_]) ∨
      s'.resp.filefd_ = -1 ∧ s'.descriptors =
        if s.resp.filefd_ ≠ -1 then s.descriptors ++ [.closed s.resp.filefd_]
        else s.descriptors := by
  cases e with
  | read input reply =>
    rcases onMsg_files hexec with hsame | hopened
    · exact Or.inl hsame
    · exact Or.inr (Or.inl hopened)
  | write written =>
    obtain ⟨output, isWriting, pendingTasks_, socket, rfl, _⟩ := handleWrite_frame hexec
    exact Or.inl ⟨rfl, rfl, id⟩
  | task result =>
    have hexec : runTask result s = .ok s' := hexec
    rw [runTask] at hexec
    split at hexec
    · obtain rfl := Except.ok.inj hexec
      exact Or.inl ⟨rfl, rfl, id⟩
    · rename_i tasks htasks
      -- of what `onWriteComplete` can do, only the completion clears `resp`
      rcases onWriteComplete_cases hexec with
        ⟨_, rfl⟩ | ⟨_, ⟨_, ⟨n, _, hsend⟩ | ⟨_, rfl⟩⟩ | ⟨_, rfl⟩⟩
      · obtain ⟨pendingTasks_, heq, _⟩ := finishResponse_frame { s with tasks := tasks }
        rw [heq]
        exact Or.inr (Or.inr ⟨rfl, rfl⟩)
      · obtain ⟨output, isWriting, rfl, _⟩ := sendInLoop_frame hsend
        exact Or.inl ⟨rfl, rfl, id⟩
      · obtain ⟨pendingTasks_, heq, _⟩ := finishResponse_frame { s with
          tasks := tasks
          sendfiles := s.sendfiles ++ [(s.completions.length, s.output_.readableBytes)] }
        rw [heq]
        exact Or.inr (Or.inr ⟨rfl, rfl⟩)
      · exact Or.inl ⟨rfl, rfl, id⟩
    · split at hexec <;> (obtain rfl := Except.ok.inj hexec; exact Or.inl ⟨rfl, rfl, id⟩)
  | peerClosed | swap | close | teardown | destroy =>
    obtain rfl := Except.ok.inj hexec
    exact Or.inl ⟨rfl, rfl, id⟩

lemma keptInv_step {e : Event} (h : s.KeptInv) (hexec : exec resourcePath_ s e = .ok s') :
    s'.KeptInv := by
  obtain ⟨closed, hpaired, hdescriptors⟩ := h.kept
  rcases exec_files hexec with ⟨hsame, hfilefd, hstate⟩ | ⟨hstate, hstate', hpos, hopened⟩ |
    ⟨hfilefd, hclosed⟩
  · constructor
    · refine ⟨closed, hpaired, ?_⟩
      rw [hsame, hdescriptors, held, held, hfilefd]
    · intro hne
      rw [hfilefd] at hne
      exact hstate (h.state hne)
  · -- nothing was open
    have hfilefd : s.resp.filefd_ = -1 := by
      by_contra hne
      exact hstate (h.state hne)
    constructor
    · refine ⟨closed, hpaired, ?_⟩
      rw [hopened, hdescriptors, held_of_eq hfilefd, List.append_nil, held_of_ne (by omega)]
    · exact fun _ => hstate'
  · constructor
    · by_cases hnone : s.resp.filefd_ = -1
      · rw [if_neg (not_not.mpr hnone), hdescriptors, held_of_eq hnone, List.append_nil] at hclosed
        exact ⟨closed, hpaired, by rw [hclosed, held_of_eq hfilefd, List.append_nil]⟩
      · rw [if_pos hnone, hdescriptors, held_of_ne hnone, List.append_assoc] at hclosed
        exact ⟨_, hpaired.append_pair s.resp.filefd_, by
          rw [hclosed, held_of_eq hfilefd, List.append_nil]
          rfl⟩
    · exact fun hne => absurd hfilefd hne

lemma keptInv_start : ({} : HttpConnection).KeptInv where
  kept := ⟨[], paired_nil, rfl⟩
  state hne := absurd rfl hne

/-- **No open descriptor is overwritten.** -/
theorem kept_of_run {es : List Event} (hrun : (machine resourcePath_).Run {} es s) : s.Kept :=
  (hrun.preserves keptInv_start fun _ _ _ h _ => keptInv_step h).kept

/-! ## Connections that end -/

/-- A connection that ends while a file is open has a write-complete task waiting, and a
write-complete task that runs afterwards either completes the response or has another one behind
it. -/
def ReleasesFile (s : HttpConnection) : Event → Prop
  | .peerClosed => s.resp.filefd_ ≠ -1 → s.WriteCompleteWaits
  | .teardown => s.resp.filefd_ ≠ -1 → s.WriteCompleteWaits
  | .task result =>
    match s.tasks with
    | [] => True
    | .closeInLoop :: tasks => s.resp.filefd_ ≠ -1 → .onWriteComplete ∈ tasks ++ s.pendingTasks_
    | .onWriteComplete :: tasks =>
      s.connected = false → s.resp.filefd_ ≠ -1 →
        s.resp.respComplete_ = true ∨ result = none ∨ result = some 0 ∨
          .onWriteComplete ∈ tasks ++ s.pendingTasks_
  | _ => True

/-- A connection that has ended has a task that closes its file. -/
structure ReleaseInv (s : HttpConnection) : Prop extends KeptInv s where
  released : s.connected = false → s.resp.filefd_ ≠ -1 → s.WriteCompleteWaits
  destroyed : s.destroyed = true → s.resp.filefd_ = -1

lemma ReleaseInv.task {result : Option ℕ} (h : s.ReleaseInv)
    (hreleases : s.ReleasesFile (.task result)) (hexec : runTask result s = .ok s') :
    s'.destroyed = s.destroyed ∧
      (s'.connected = false → s'.resp.filefd_ ≠ -1 → s'.WriteCompleteWaits) := by
  rw [runTask] at hexec
  split at hexec
  · obtain rfl := Except.ok.inj hexec
    exact ⟨rfl, h.released⟩
  · rename_i tasks htasks
    simp only [ReleasesFile, htasks] at hreleases
    rcases onWriteComplete_cases hexec with
      ⟨_, rfl⟩ | ⟨hcomplete, ⟨_, ⟨n, rfl, hsend⟩ | ⟨_, rfl⟩⟩ | ⟨hstate, rfl⟩⟩
    · obtain ⟨pendingTasks_, heq, _⟩ := finishResponse_frame { s with tasks := tasks }
      rw [heq]
      exact ⟨rfl, fun _ hne => absurd rfl hne⟩
    · -- a block was sent: only another write-complete task will look at the file again
      obtain ⟨output, isWriting, rfl, _⟩ := sendInLoop_frame hsend
      refine ⟨rfl, fun hnot hne => ?_⟩
      rcases hreleases hnot hne with hcomplete' | hnone | hzero | hwaits
      · have hcomplete : s.resp.respComplete_ = false := hcomplete
        rw [hcomplete] at hcomplete'
        cases hcomplete'
      · cases hnone
      · cases hzero
      · exact hwaits
    · obtain ⟨pendingTasks_, heq, _⟩ := finishResponse_frame { s with
        tasks := tasks
        sendfiles := s.sendfiles ++ [(s.completions.length, s.output_.readableBytes)] }
      rw [heq]
      exact ⟨rfl, fun _ hne => absurd rfl hne⟩
    · exact ⟨rfl, fun _ hne => absurd (h.state hne) hstate⟩
  · rename_i tasks htasks
    simp only [ReleasesFile, htasks] at hreleases
    split at hexec <;> (obtain rfl := Except.ok.inj hexec; exact ⟨rfl, fun _ => hreleases⟩)

instance (s : HttpConnection) : ∀ e, Decidable (s.ReleasesFile e)
  | .peerClosed | .teardown => inferInstanceAs (Decidable (_ → _))
  | .task _ => by
    dsimp only [ReleasesFile]
    split <;> infer_instance
  | .read .. | .write _ | .swap | .close | .destroy => isTrue trivial

end HttpConnection
end Miniduo
