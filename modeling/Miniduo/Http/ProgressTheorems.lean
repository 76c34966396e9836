import Miniduo.Http.ChunkTheorems
import Miniduo.Http.SafetyTheorems

/-!
# Progress of the decoder

From every state that calls of `tryDecode` and `clear` reach, a call that does not throw ends, has
read as far as it can, and may be repeated once more bytes are there. `NO_REQUEST` says that the
decoder waits, with one exception in the converse: a request line that is refused leaves it in the
state in which it would wait for another one, and is answered `BAD_REQUEST`.
-/

namespace Miniduo
namespace HttpRequest

/-- What calls make of a cleared request, whether or not they throw. -/
inductive Reachable : HttpRequest → Prop
  | clear (req : HttpRequest) : Reachable req.clear
  | call {req : HttpRequest} (buf : Bytes) (h : Reachable req) : Reachable (tryDecode req buf).req

/-- The decoder cannot go on without more bytes. -/
def Waiting (req : HttpRequest) (buf : Bytes) : Prop :=
  match req.checkstate_ with
  | .expectRequestline => LF ∉ buf
  | .expectHeader => LF ∉ buf
  | .expectContent => 0 < req.contentLength_ ∧ (buf.length : ℤ) < req.contentLength_
  | .getAll => False

/-- `parseRequstline` refuses the line in front. -/
def Rejects (req : HttpRequest) (buf : Bytes) : Prop :=
  req.checkstate_ = .expectRequestline ∧ ∃ i, findCRLF buf = some i ∧ ¬RequestLineOk (buf.take i)

/-- What a call that answers `code` has done. -/
structure Progress (req : HttpRequest) (buf : Bytes) (code : HttpCode) : Prop where
  /-- The loop ends: any larger bound on its rounds gives the same. -/
  terminates : ∀ rounds > buf.length, (tryDecodeLoop rounds .lineOk).call req buf =
    (.ok code, (tryDecode req buf).req, (tryDecode req buf).buf)
  suffix : (tryDecode req buf).buf <:+ buf
  complete : code = .getRequest ↔ (tryDecode req buf).req.checkstate_ = .getAll
  waits : code = .noRequest ↔
    Waiting (tryDecode req buf).req (tryDecode req buf).buf ∧ ¬Rejects req buf
  refuses : Rejects req buf →
    code = .badRequest ∧ (tryDecode req buf).req.checkstate_ = .expectRequestline
  resumes : code = .noRequest → tryDecode (tryDecode req buf).req (tryDecode req buf).buf =
    ⟨.ok .noRequest, (tryDecode req buf).req, (tryDecode req buf).buf⟩

/-! ## The announced length -/

/-- The announced length is an `int`, and positive where a body is expected. -/
structure LengthOk (req : HttpRequest) : Prop where
  range : req.contentLength_ < 2 ^ 31
  content : req.checkstate_ = .expectContent → 0 < req.contentLength_

lemma stoi_lt {s : Bytes} {n : ℤ} (h : stoi s = .ok n) : n < 2 ^ 31 := by
  unfold stoi at h
  simp only at h
  split at h
  · cases h
  · generalize (if (readSign (s.dropWhile isspace)).1 = true then _ else _ : ℤ) = value at h
    split at h
    · cases h
    · obtain rfl := Except.ok.inj h
      omega

lemma clear_lengthOk (req : HttpRequest) : LengthOk req.clear := ⟨by norm_num [clear], nofun⟩

section
variable {req : HttpRequest} {line : Bytes}

lemma headerLine_lengthOk (h : req.LengthOk) (hstate : req.checkstate_ = .expectHeader) :
    (headerLine req line).2.LengthOk := by
  by_cases hnil : line = []
  · rw [headerLine, if_pos hnil]
    split
    · rename_i hbody
      exact ⟨h.range, fun _ => hbody.2⟩
    · exact ⟨h.range, fun hcontent => by cases hcontent⟩
  · -- only the value of `Content-length` changes the length
    have hlength : (headerLine req line).2.contentLength_ < 2 ^ 31 := by
      rw [headerLine, if_neg hnil]
      split
      · exact h.range
      · split
        · simp only
          split
          · split
            · rename_i hvalue
              exact stoi_lt hvalue
            · exact h.range
          · exact h.range
        · exact h.range
    refine ⟨hlength, fun hcontent => ?_⟩
    rw [headerLine_state hnil, hstate] at hcontent
    cases hcontent

lemma readLine_lengthOk (h : req.LengthOk) (hreads : req.ReadsLines) :
    (readLine req line).2.LengthOk := by
  rw [readLine]
  split
  · rename_i hstate
    obtain ⟨hlength, -, hnext⟩ := requestLine_frame req line
    refine ⟨by rw [hlength]; exact h.range, fun hcontent => ?_⟩
    rcases hnext with hnext | hnext
    · rw [hnext] at hcontent
      cases hcontent
    · rw [hnext, hstate] at hcontent
      cases hcontent
  · rename_i hstate
    exact headerLine_lengthOk h (hreads.resolve_left hstate)

end

lemma tryDecode_lengthOk {req : HttpRequest} {buf : Bytes} (h : req.LengthOk) :
    (tryDecode req buf).req.LengthOk := by
  induction req, buf using decode_induction with
  | getAll req buf hstate => rwa [tryDecode_getAll hstate]
  | content req buf hstate =>
    rw [tryDecode_content hstate]
    split
    · exact h
    · exact ⟨h.range, nofun⟩
  | noLine req buf hreads hi => rwa [tryDecode_noLine hreads hi]
  | stop req buf i hreads hi hstop =>
    rw [tryDecode_line hreads hi, if_neg hstop]
    exact readLine_lengthOk h hreads
  | line req buf i hreads hi hgo ih =>
    rw [tryDecode_line hreads hi, if_pos hgo]
    exact ih (readLine_lengthOk h hreads)

lemma Reachable.lengthOk {req : HttpRequest} (h : Reachable req) : req.LengthOk := by
  induction h with
  | clear req => exact clear_lengthOk req
  | call buf _ ih => exact tryDecode_lengthOk ih

/-! ## How a call ends -/

/-- What is left unread is the end of what was there. -/
lemma tryDecode_suffix (req : HttpRequest) (buf : Bytes) : (tryDecode req buf).buf <:+ buf := by
  induction req, buf using decode_induction with
  | getAll req buf hstate => rw [tryDecode_getAll hstate]
  | content req buf hstate =>
    rw [tryDecode_content hstate]
    split
    · exact List.suffix_rfl
    · exact List.drop_suffix _ _
  | noLine req buf hreads hi => rw [tryDecode_noLine hreads hi]
  | stop req buf i hreads hi hstop =>
    rw [tryDecode_line hreads hi, if_neg hstop]
    exact List.drop_suffix _ _
  | line req buf i hreads hi hgo ih =>
    rw [tryDecode_line hreads hi, if_pos hgo]
    exact ih.trans (List.drop_suffix _ _)

section
variable {req : HttpRequest} {line : Bytes}

/-- Only a request that is complete is in the state `GET_ALL`. -/
lemma readLine_getAll (hreads : req.ReadsLines) (h : (readLine req line).2.checkstate_ = .getAll) :
    (readLine req line).1 = .ok .getRequest := by
  rw [readLine] at h ⊢
  split at h
  · rename_i hstate
    rcases (requestLine_frame req line).2.2 with hnext | hnext
    · rw [hnext] at h
      cases h
    · rw [hnext, hstate] at h
      cases h
  · rename_i hstate
    rw [if_neg hstate]
    by_cases hnil : line = []
    · rw [headerLine, if_pos hnil] at h ⊢
      split at h
      · cases h
      · rename_i hbody
        rw [if_neg hbody]
    · rw [headerLine_state hnil, hreads.resolve_left hstate] at h
      cases h

/-- Behind the first line no request line is read. -/
lemma readLine_state (h : (readLine req line).1 = .ok .noRequest) :
    (readLine req line).2.checkstate_ ≠ .expectRequestline := by
  rw [readLine] at h ⊢
  split at h
  · rename_i hstate
    rw [if_pos hstate, requestLine_state (requestLine_accepts.mp (Except.ok.inj h))]
    decide
  · rename_i hstate
    rw [if_neg hstate]
    by_cases hnil : line = []
    · rw [headerLine, if_pos hnil]
      split <;> simp
    · rw [headerLine_state hnil]
      exact hstate

end

/-- A call that ends in `GET_ALL` has completed the request. -/
lemma getRequest_of_getAll {req : HttpRequest} {buf : Bytes} (hstate : req.checkstate_ ≠ .getAll)
    (h : (tryDecode req buf).req.checkstate_ = .getAll) :
    (tryDecode req buf).result = .ok .getRequest := by
  induction req, buf using decode_induction with
  | getAll req buf hall => exact absurd hall hstate
  | content req buf hcontent =>
    rw [tryDecode_content hcontent] at h ⊢
    split at h
    · rw [hcontent] at h
      cases h
    · rename_i hlen
      rw [if_neg hlen]
  | noLine req buf hreads hi =>
    rw [tryDecode_noLine hreads hi] at h
    exact absurd h hstate
  | stop req buf i hreads hi hstop =>
    rw [tryDecode_line hreads hi, if_neg hstop] at h ⊢
    exact readLine_getAll hreads h
  | line req buf i hreads hi hgo ih =>
    rw [tryDecode_line hreads hi, if_pos hgo] at h ⊢
    refine ih (fun hall => ?_) h
    rw [readLine_getAll hreads hall] at hgo
    cases hgo

/-- What a call refuses: a line with a bare line feed, or the request line in front. -/
lemma refused_of_badRequest {req : HttpRequest} {buf : Bytes} (hstate : req.checkstate_ ≠ .getAll)
    (h : (tryDecode req buf).result = .ok .badRequest) :
    ((tryDecode req buf).req.ReadsLines ∧ LF ∈ (tryDecode req buf).buf) ∨ Rejects req buf := by
  induction req, buf using decode_induction with
  | getAll req buf hall => exact absurd hall hstate
  | content req buf hcontent =>
    rw [tryDecode_content hcontent] at h
    split at h <;> cases h
  | noLine req buf hreads hi =>
    rw [tryDecode_noLine hreads hi] at h ⊢
    split at h
    · rename_i hlf
      exact Or.inl ⟨hreads, hlf⟩
    · cases h
  | stop req buf i hreads hi hstop =>
    rw [tryDecode_line hreads hi, if_neg hstop] at h
    -- header lines are never answered `BAD_REQUEST`
    rw [readLine] at h
    split at h
    · rename_i hline
      refine Or.inr ⟨hline, i, hi, fun hok => ?_⟩
      rw [requestLine_accepts.mpr hok] at h
      cases h
    · rcases headerLine_code h with hcode | hcode <;> cases hcode
  | line req buf i hreads hi hgo ih =>
    rw [tryDecode_line hreads hi, if_pos hgo] at h ⊢
    have hnext : (readLine req (buf.take i)).2.checkstate_ ≠ .getAll := by
      intro hall
      rw [readLine_getAll hreads hall] at hgo
      cases hgo
    rcases ih hnext h with hend | hrejects
    · exact Or.inl hend
    · exact absurd hrejects.1 (readLine_state hgo)

/-- A request line that is refused is answered so, and the decoder is ready for another one. -/
lemma Rejects.badRequest {req : HttpRequest} {buf : Bytes} (h : Rejects req buf) :
    (tryDecode req buf).result = .ok .badRequest ∧
      (tryDecode req buf).req.checkstate_ = .expectRequestline := by
  obtain ⟨hstate, i, hi, hno⟩ := h
  obtain ⟨hcode, hsame⟩ := @requestLine_refuses req _ hno
  have hline : readLine req (buf.take i) = (.ok .badRequest, (requestLine req (buf.take i)).2) := by
    rw [readLine, if_pos hstate, hcode]
  rw [tryDecode_line (Or.inl hstate) hi, if_neg (by rw [hline]; simp), hline]
  exact ⟨rfl, hsame.trans hstate⟩

/-- A call that asks for more bytes leaves the decoder waiting. -/
lemma waiting_of_noRequest {req : HttpRequest} {buf : Bytes} (h : req.LengthOk)
    (hno : (tryDecode req buf).result = .ok .noRequest) :
    Waiting (tryDecode req buf).req (tryDecode req buf).buf := by
  have hlength : (tryDecode req buf).req.LengthOk := tryDecode_lengthOk h
  unfold Waiting
  rcases noRequest_end req buf hno with ⟨hreads | hreads, -, hlf⟩ | ⟨hstate, hlen⟩
  · rw [hreads]
    exact hlf
  · rw [hreads]
    exact hlf
  · have hpos := hlength.content hstate
    have hrange := hlength.range
    rw [hstate]
    refine ⟨hpos, ?_⟩
    unfold toSize at hlen
    omega

/-- **Progress.** A call that does not throw terminates, leaves a suffix, is complete exactly in
`GET_ALL`, and asks for more bytes exactly when it waits and has refused no request line; one that
is refused is answered `BAD_REQUEST` in the request-line state. Asked again without new bytes after
`NO_REQUEST`, it answers the same and changes nothing. -/
theorem tryDecode_progress {req : HttpRequest} (hreach : Reachable req)
    (hstate : req.checkstate_ ≠ .getAll) (buf : Bytes)
    (hrange : (tryDecode req buf).result ≠ .error .outOfRange)
    (hargument : (tryDecode req buf).result ≠ .error .invalidArgument) :
    ∃ code, Progress req buf code := by
  cases hresult : (tryDecode req buf).result with
  | error e =>
    -- the call throws nothing else, and its loop is never cut short
    rcases tryDecode_fault req buf hresult with rfl | rfl
    · exact absurd hresult hrange
    · exact absurd hresult hargument
  | ok code =>
    refine ⟨code, ?_, tryDecode_suffix req buf, ?_, ?_, ?_, ?_⟩
    · intro rounds hrounds
      rw [loop_fuel hrounds (Nat.lt_succ_self buf.length), ← hresult]
      rfl
    · constructor
      · rintro rfl
        exact tryDecode_getRequest hresult
      · intro hall
        rw [getRequest_of_getAll hstate hall, Except.ok.injEq] at hresult
        exact hresult.symm
    · constructor
      · rintro rfl
        refine ⟨waiting_of_noRequest hreach.lengthOk hresult, fun hrejects => ?_⟩
        rw [hrejects.badRequest.1] at hresult
        cases hresult
      · rintro ⟨hwaiting, hno⟩
        -- the other two answers do not leave the decoder waiting
        rcases tryDecode_code hresult with rfl | rfl | rfl
        · rfl
        · rw [Waiting, tryDecode_getRequest hresult] at hwaiting
          exact hwaiting.elim
        · rcases refused_of_badRequest hstate hresult with ⟨hreads, hlf⟩ | hrejects
          · rcases hreads with hreads | hreads
            · rw [Waiting, hreads] at hwaiting
              exact absurd hlf hwaiting
            · rw [Waiting, hreads] at hwaiting
              exact absurd hlf hwaiting
          · exact absurd hrejects hno
    · intro hrejects
      obtain ⟨hbad, hnext⟩ := hrejects.badRequest
      rw [hresult, Except.ok.injEq] at hbad
      exact ⟨hbad, hnext⟩
    · rintro rfl
      exact tryDecode_waits hresult

/-- Half of a header line behind a request line. -/
theorem tryDecode_progress_header :
    ∃ code, Progress (clear {}) (lit "GET / HTTP/1.1\r\nHost") code :=
  tryDecode_progress (.clear {}) (by decide) _ (by decide) (by decide)

/-- A request line that is refused: nothing is left unread, and the answer is not `NO_REQUEST`. -/
theorem tryDecode_rejects :
    ¬∀ req, Reachable req → req.checkstate_ ≠ .getAll → ∀ buf code,
      (tryDecode req buf).result = .ok code →
        (code = .noRequest ↔ Waiting (tryDecode req buf).req (tryDecode req buf).buf) := by
  intro h
  have hbad : (tryDecode (clear {}) (lit "x\r\n")).result = .ok .badRequest := by decide
  have hwaiting : Waiting (tryDecode (clear {}) (lit "x\r\n")).req
      (tryDecode (clear {}) (lit "x\r\n")).buf := by
    have hstate : (tryDecode (clear {}) (lit "x\r\n")).req.checkstate_ = .expectRequestline := by
      decide
    rw [Waiting, hstate]
    decide
  exact absurd ((h _ (.clear {}) (by decide) _ _ hbad).mpr hwaiting) (by decide)

end HttpRequest
end Miniduo
