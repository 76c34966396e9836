import Miniduo.Http.HttpMsg

/-!
# What `tryDecode` computes

The decoder is a machine that reads whole lines until it waits, stops or reaches the body:

* `requestLine` and `headerLine` are what `parseRequstline` and `parseHeaders` do with a line
  already taken from the buffer, and `readLine` is the one that the request's state selects;
* `tryDecode_line`, `tryDecode_noLine`, `tryDecode_content` and `tryDecode_getAll` are the answers
  of `tryDecode`, one for each kind of state, and `decode_induction` is the induction that follows
  them;
* `tryDecode_getRequest` and `tryDecode_code` are what every answer has in common.
-/

namespace Miniduo
namespace HttpRequest

/-! ## Running `DecodeM` -/

namespace DecodeM

variable {α β : Type} (req : HttpRequest) (buf : Bytes)

/-- The state after a computation that does nothing, and after each basic one. -/
@[simp] lemma call_pure (a : α) : (pure a : DecodeM α).call req buf = (.ok a, req, buf) := rfl

/-- The second part runs on what the first has left, unless that has thrown. -/
@[simp] lemma call_bind (x : DecodeM α) (f : α → DecodeM β) :
    (x >>= f).call req buf = match x.call req buf with
      | (.ok a, s) => (f a).call s.1 s.2
      | (.error e, s) => (.error e, s) := by
  change ExceptT.bindCont (m := StateM _) f (x.call req buf).1 (x.call req buf).2 = _
  rcases x.call req buf with ⟨_ | _, _⟩ <;> rfl

@[simp] lemma call_getBuf : getBuf.call req buf = (.ok buf, req, buf) := rfl

@[simp] lemma call_getReq : getReq.call req buf = (.ok req, req, buf) := rfl

@[simp] lemma call_setBuf (buf' : Bytes) : (setBuf buf').call req buf = (.ok (), req, buf') := rfl

@[simp] lemma call_modifyReq (f : HttpRequest → HttpRequest) :
    (modifyReq f).call req buf = (.ok (), f req, buf) := rfl

@[simp] lemma call_liftFault (x : Except Fault α) : (liftFault x).call req buf = (x, req, buf) :=
  rfl

/-- A branch is taken before the computation runs. -/
@[simp] lemma call_ite (p : Prop) [Decidable p] (x y : DecodeM α) :
    (if p then x else y).call req buf = if p then x.call req buf else y.call req buf := by
  split <;> rfl

end DecodeM

/-- `retrieveLine` takes the line and its CRLF. -/
lemma call_retrieveLine {req : HttpRequest} {buf : Bytes} {i : ℕ} (h : findCRLF buf = some i) :
    retrieveLine.call req buf = (.ok (buf.take i), req, buf.drop (i + 2)) := by
  simp only [retrieveLine, DecodeM.call_bind, DecodeM.call_getBuf, h, DecodeM.call_setBuf,
    DecodeM.call_pure]

/-! ## One line -/

/-- The part of the target from its first slash on is split at its first `?`. -/
def setTarget (req : HttpRequest) (URL : Bytes) : HttpRequest :=
  match URL.idxOf? 63 with
  | some idx => { req with URL_ := URL.take idx, query_ := URL.drop (idx + 1) }
  | none => { req with URL_ := URL }

lemma setTarget_state (req : HttpRequest) (URL : Bytes) :
    (setTarget req URL).checkstate_ = req.checkstate_ := by
  unfold setTarget
  split <;> rfl

/-- `parseRequstline` on a line already taken from the buffer. -/
def requestLine (req : HttpRequest) (line : Bytes) : HttpCode × HttpRequest :=
  let (method, ss) := extractWord line
  let (URL, ss) := extractWord ss
  let (version, _) := extractWord ss
  match supportedMethods method with
  | none => (.badRequest, req)
  | some methodType =>
    let req := { req with method_ := method, methodType_ := methodType }
    let URL := if (lit "http://").isPrefixOf URL then URL.drop 7 else URL
    match URL.idxOf? 47 with
    | none => (.badRequest, req)
    | some idx =>
      let req := setTarget req (URL.drop idx)
      match supportedVersions version with
      | none => (.badRequest, req)
      | some versionType =>
        (.noRequest, { req with
          version_ := version, versionType_ := versionType, checkstate_ := .expectHeader })

/-- `parseHeaders` on a line already taken from the buffer. -/
def headerLine (req : HttpRequest) (line : Bytes) : Except Fault HttpCode × HttpRequest :=
  if line = [] then
    if lit "Content-length" ∈ req.headers_ ∧ req.contentLength_ > 0 then
      (.ok .noRequest, { req with checkstate_ := .expectContent })
    else (.ok .getRequest, { req with checkstate_ := .getAll })
  else
    match line.idxOf? 58 with
    | none => (.ok .noRequest, req)
    | some idx =>
      if idx + 2 ≤ line.length then
        let field := line.take idx
        let value := line.drop (idx + 2)
        let req := { req with headers_ := req.headers_.insert field value }
        if field = lit "Content-length" then
          match stoi value with
          | .ok length => (.ok .noRequest, { req with contentLength_ := length })
          | .error e => (.error e, req)
        else (.ok .noRequest, req)
      else (.error .outOfRange, req)

/-- `substr` up to the end. -/
lemma substr_tail {s : Bytes} {pos : ℕ} (h : pos ≤ s.length) :
    substr s pos (s.length - pos) = .ok (s.drop pos) := by
  rw [substr, if_pos h, List.take_of_length_le (by rw [List.length_drop])]

lemma substr_zero (s : Bytes) (n : ℕ) : substr s 0 n = .ok (s.take n) := rfl

lemma idxOf?_lt {s : Bytes} {c : Byte} {idx : ℕ} (h : s.idxOf? c = some idx) : idx < s.length := by
  rw [List.idxOf?, List.findIdx?_eq_some_iff_getElem] at h
  exact h.1

/-- A target that begins with `http://` has these seven bytes. -/
lemma seven_le_of_isPrefixOf {s : Bytes} (h : (lit "http://").isPrefixOf s = true) :
    7 ≤ s.length := (List.isPrefixOf_iff_prefix.mp h).length_le

section
variable {req : HttpRequest} {buf : Bytes} {i : ℕ}

/-- `parseRequstline` on a buffer with a line takes it, and does what `requestLine` says. -/
lemma call_parseRequstline (h : findCRLF buf = some i) :
    parseRequstline.call req buf
      = (.ok (requestLine req (buf.take i)).1, (requestLine req (buf.take i)).2,
          buf.drop (i + 2)) := by
  simp only [parseRequstline, DecodeM.call_bind, call_retrieveLine h, requestLine, setTarget]
  cases supportedMethods (extractWord (buf.take i)).1 with
  | none => rfl
  | some methodType =>
    simp only [DecodeM.call_bind, DecodeM.call_modifyReq]
    generalize (extractWord (extractWord (buf.take i)).2).1 = URL
    -- `substr(7)` stands behind the test for the prefix, so it is in range
    have hstrip :
        (if (lit "http://").isPrefixOf URL then substr URL 7 (URL.length - 7) else .ok URL)
          = .ok (if (lit "http://").isPrefixOf URL then URL.drop 7 else URL) := by
      split
      · rename_i hpre
        exact substr_tail (seven_le_of_isPrefixOf hpre)
      · rfl
    simp only [hstrip, DecodeM.call_liftFault]
    generalize (if (lit "http://").isPrefixOf URL then URL.drop 7 else URL) = URL
    cases hslash : URL.idxOf? 47 with
    | none => rfl
    | some idx =>
      simp only [substr_tail (le_of_lt (idxOf?_lt hslash)), DecodeM.call_bind,
        DecodeM.call_liftFault]
      cases hquery : (URL.drop idx).idxOf? 63 with
      | none =>
        cases supportedVersions (extractWord (extractWord (extractWord (buf.take i)).2).2).1 <;> rfl
      | some idx' =>
        simp only [substr_zero, substr_tail (idxOf?_lt hquery), DecodeM.call_bind,
          DecodeM.call_liftFault, DecodeM.call_modifyReq]
        cases supportedVersions (extractWord (extractWord (extractWord (buf.take i)).2).2).1 <;> rfl

/-- `parseHeaders` on a buffer with a line takes it, and does what `headerLine` says. -/
lemma call_parseHeaders (h : findCRLF buf = some i) :
    parseHeaders.call req buf
      = ((headerLine req (buf.take i)).1, (headerLine req (buf.take i)).2, buf.drop (i + 2)) := by
  simp only [parseHeaders, DecodeM.call_bind, call_retrieveLine h, headerLine]
  generalize buf.take i = line
  by_cases hnil : line = []
  · simp only [if_pos hnil, DecodeM.call_bind, DecodeM.call_getReq]
    split <;> rfl
  · simp only [if_neg hnil]
    cases hcolon : line.idxOf? 58 with
    | none => rfl
    | some idx =>
      simp only [substr_zero, DecodeM.call_bind, DecodeM.call_liftFault]
      -- the value starts two bytes behind the `:`, if there are two
      by_cases hle : idx + 2 ≤ line.length
      · simp only [substr_tail hle, if_pos hle, DecodeM.call_modifyReq]
        by_cases hfield : line.take idx = lit "Content-length"
        · simp only [if_pos hfield, DecodeM.call_bind, DecodeM.call_liftFault]
          cases stoi (line.drop (idx + 2)) <;> rfl
        · simp only [if_neg hfield]
          rfl
      · simp only [substr, if_neg hle]

/-- `parseContent` waits for the announced number of bytes, and takes them. -/
lemma call_parseContent :
    parseContent.call req buf =
      if buf.length < toSize req.contentLength_ then (.ok .noRequest, req, buf)
      else (.ok .getRequest,
        { req with content_ := buf.take (toSize req.contentLength_), checkstate_ := .getAll },
        buf.drop (toSize req.contentLength_)) := by
  simp only [parseContent, DecodeM.call_bind, DecodeM.call_getBuf, DecodeM.call_getReq]
  split <;> rfl

end

/-! ## The answers of `tryDecode` -/

/-- The states in which the next thing read is a line. -/
def ReadsLines (req : HttpRequest) : Prop :=
  req.checkstate_ = .expectRequestline ∨ req.checkstate_ = .expectHeader

/-- What a whole line does in a state that reads lines. -/
def readLine (req : HttpRequest) (line : Bytes) : Except Fault HttpCode × HttpRequest :=
  if req.checkstate_ = .expectRequestline then
    (.ok (requestLine req line).1, (requestLine req line).2)
  else headerLine req line

/-- A request line is accepted or refused. -/
lemma requestLine_code (req : HttpRequest) (line : Bytes) :
    (requestLine req line).1 = .noRequest ∨ (requestLine req line).1 = .badRequest := by
  simp only [requestLine]
  split
  · exact Or.inr rfl
  · split
    · exact Or.inr rfl
    · split
      · exact Or.inr rfl
      · exact Or.inl rfl

/-- A header line that is processed asks for the next one, or is the end of a request without body.
-/
lemma headerLine_code {req : HttpRequest} {line : Bytes} {code : HttpCode}
    (h : (headerLine req line).1 = .ok code) : code = .noRequest ∨ code = .getRequest := by
  simp only [headerLine] at h
  split at h
  · split at h <;> simp_all
  · split at h
    · simp_all
    · split at h
      · split at h
        · split at h <;> simp_all
        · simp_all
      · simp_all

/-- `parseRequstline` accepts the line: a supported method, a target with a slash behind a
leading `http://`, a supported version. -/
def RequestLineOk (line : Bytes) : Prop :=
  let (method, ss) := extractWord line
  let (URL, ss) := extractWord ss
  let (version, _) := extractWord ss
  (supportedMethods method).isSome ∧
    47 ∈ (if (lit "http://").isPrefixOf URL then URL.drop 7 else URL) ∧
    (supportedVersions version).isSome

/-- What `parseHeaders` asks of a line that is not empty: when it holds a `:`, a byte follows the
`:`, and the value of the field `Content-length` is one that `std::stoi` reads. A line without `:`
is skipped as an unknown header. -/
def HeaderLineOk (line : Bytes) : Prop :=
  match line.idxOf? 58 with
  | none => True
  | some idx => idx + 2 ≤ line.length ∧
      (line.take idx = lit "Content-length" → (stoi (line.drop (idx + 2))).isOk = true)

instance (line : Bytes) : Decidable (RequestLineOk line) := by
  unfold RequestLineOk
  infer_instance

instance (line : Bytes) : Decidable (HeaderLineOk line) := by
  unfold HeaderLineOk
  split <;> infer_instance

/-- Which request lines are accepted. -/
lemma requestLine_accepts {req : HttpRequest} {line : Bytes} :
    (requestLine req line).1 = .noRequest ↔ RequestLineOk line := by
  simp only [requestLine, RequestLineOk]
  cases supportedMethods (extractWord line).1 with
  | none => simp
  | some methodType =>
    generalize (extractWord (extractWord line).2).1 = URL
    generalize (if (lit "http://").isPrefixOf URL then URL.drop 7 else URL) = URL
    cases hslash : URL.idxOf? 47 with
    | none =>
      have hmem : 47 ∉ URL := List.idxOf?_eq_none_iff.mp hslash
      simp [hmem]
    | some idx =>
      have hmem : 47 ∈ URL := by
        by_contra hmem
        rw [List.idxOf?_eq_none_iff.mpr hmem] at hslash
        cases hslash
      cases supportedVersions (extractWord (extractWord (extractWord line).2).2).1 with
      | none => simp
      | some versionType => simp [hmem]

/-- An accepted request line is followed by the headers. -/
lemma requestLine_state {req : HttpRequest} {line : Bytes} (h : RequestLineOk line) :
    (requestLine req line).2.checkstate_ = .expectHeader := by
  have h : (requestLine req line).1 = .noRequest := requestLine_accepts.mpr h
  simp only [requestLine] at h ⊢
  split at h
  · cases h
  · split at h
    · cases h
    · split at h
      · cases h
      · rfl

/-- A refused request line is answered `BAD_REQUEST`, and the next line is a request line again. -/
lemma requestLine_refuses {req : HttpRequest} {line : Bytes} (h : ¬RequestLineOk line) :
    (requestLine req line).1 = .badRequest ∧
      (requestLine req line).2.checkstate_ = req.checkstate_ := by
  have hcode : (requestLine req line).1 ≠ .noRequest := fun hno => h (requestLine_accepts.mp hno)
  refine ⟨(requestLine_code req line).resolve_left hcode, ?_⟩
  simp only [requestLine] at hcode ⊢
  split at hcode
  · rfl
  · split at hcode
    · rfl
    · split at hcode
      · exact setTarget_state ..
      · exact absurd rfl hcode

/-- A request line changes neither the headers and the length nor the state, except that it is
followed by the headers when it is accepted. -/
lemma requestLine_frame (req : HttpRequest) (line : Bytes) :
    (requestLine req line).2.contentLength_ = req.contentLength_ ∧
      (requestLine req line).2.headers_ = req.headers_ ∧
      ((requestLine req line).2.checkstate_ = .expectHeader ∨
        (requestLine req line).2.checkstate_ = req.checkstate_) := by
  have htarget : ∀ (req : HttpRequest) URL,
      (setTarget req URL).contentLength_ = req.contentLength_ ∧
        (setTarget req URL).headers_ = req.headers_ := by
    intro req URL
    unfold setTarget
    split <;> exact ⟨rfl, rfl⟩
  simp only [requestLine]
  split
  · exact ⟨rfl, rfl, Or.inr rfl⟩
  · split
    · exact ⟨rfl, rfl, Or.inr rfl⟩
    · obtain ⟨hlength, hheaders⟩ := htarget { req with method_ := _, methodType_ := _ } _
      split
      · exact ⟨hlength, hheaders, Or.inr (setTarget_state ..)⟩
      · exact ⟨hlength, hheaders, Or.inl rfl⟩

/-- Which header lines are processed without throwing. -/
lemma headerLine_accepts {req : HttpRequest} {line : Bytes} (hne : line ≠ []) :
    (headerLine req line).1 = .ok .noRequest ↔ HeaderLineOk line := by
  rw [headerLine, if_neg hne, HeaderLineOk]
  cases line.idxOf? 58 with
  | none => simp
  | some idx =>
    by_cases hle : idx + 2 ≤ line.length
    · by_cases hfield : line.take idx = lit "Content-length"
      · cases hvalue : stoi (line.drop (idx + 2)) with
        | ok n => simp [hle, hfield, hvalue, Except.isOk, Except.toBool]
        | error e => simp [hle, hfield, hvalue, Except.isOk, Except.toBool]
      · simp [hle, hfield]
    · simp [hle]

/-- A header line leaves the state as it is. -/
lemma headerLine_state {req : HttpRequest} {line : Bytes} (hne : line ≠ []) :
    (headerLine req line).2.checkstate_ = req.checkstate_ := by
  rw [headerLine, if_neg hne]
  split
  · rfl
  · split
    · simp only
      split
      · split <;> rfl
      · rfl
    · rfl

section
variable {req : HttpRequest} {buf : Bytes} {i : ℕ}

/-- One round of the loop that finds a line. -/
lemma loop_line (hreads : req.ReadsLines) (hi : findCRLF buf = some i) (fuel : ℕ)
    (linestatus : LineStatus) :
    (tryDecodeLoop (fuel + 1) linestatus).call req buf =
      if (readLine req (buf.take i)).1 = .ok .noRequest then
        (tryDecodeLoop fuel .lineOk).call (readLine req (buf.take i)).2 (buf.drop (i + 2))
      else
        ((readLine req (buf.take i)).1, (readLine req (buf.take i)).2, buf.drop (i + 2)) := by
  have hparse : parseLine buf = .lineOk := by rw [parseLine, hi]; rfl
  -- the first line goes to `parseRequstline`, every other one to `parseHeaders`
  rcases hreads with hstate | hstate
  · simp only [tryDecodeLoop, DecodeM.call_bind, DecodeM.call_getReq, hstate, DecodeM.call_getBuf,
      hparse, if_true, call_parseRequstline hi, readLine]
    rcases requestLine_code req (buf.take i) with hcode | hcode
    · simp [hcode]
    · simp [hcode]
  · simp only [tryDecodeLoop, DecodeM.call_bind, DecodeM.call_getReq, hstate, DecodeM.call_getBuf,
      hparse, if_true, call_parseHeaders hi, readLine, reduceCtorEq, if_false]
    cases hresult : (headerLine req (buf.take i)).1 with
    | error e => simp
    | ok code =>
      rcases headerLine_code hresult with rfl | rfl
      · simp
      · simp

/-- The number of rounds that `tryDecode` allows is never reached. -/
lemma loop_fuel : ∀ {n m : ℕ} {req : HttpRequest} {buf : Bytes},
    buf.length < n → buf.length < m →
      (tryDecodeLoop n .lineOk).call req buf = (tryDecodeLoop m .lineOk).call req buf := by
  intro n
  induction n with
  | zero => intro m req buf hn; omega
  | succ n ih =>
    intro m req buf hn hm
    obtain ⟨m, rfl⟩ : ∃ k, m = k + 1 := ⟨m - 1, by omega⟩
    by_cases hreads : req.ReadsLines
    · cases hi : findCRLF buf with
      | none =>
        have hparse : parseLine buf ≠ .lineOk := by
          rw [parseLine, hi]
          by_cases hlf : LF ∈ buf <;> simp [hlf]
        rcases hreads with hstate | hstate <;> simp [tryDecodeLoop, hstate, hparse]
      | some i =>
        have hlen := Separator.findPair_le hi
        rw [loop_line hreads hi, loop_line hreads hi]
        -- the line that is read makes the buffer shorter
        rw [ih (m := m) (by rw [List.length_drop]; omega) (by rw [List.length_drop]; omega)]
    · cases hstate : req.checkstate_ with
      | expectRequestline => exact absurd (Or.inl hstate) hreads
      | expectHeader => exact absurd (Or.inr hstate) hreads
      | expectContent => simp [tryDecodeLoop, hstate]
      | getAll => simp [tryDecodeLoop, hstate]

/-- Reading one line. -/
theorem tryDecode_line (hreads : req.ReadsLines) (hi : findCRLF buf = some i) :
    tryDecode req buf =
      if (readLine req (buf.take i)).1 = .ok .noRequest then
        tryDecode (readLine req (buf.take i)).2 (buf.drop (i + 2))
      else
        ⟨(readLine req (buf.take i)).1, (readLine req (buf.take i)).2, buf.drop (i + 2)⟩ := by
  have hlen := Separator.findPair_le hi
  rw [tryDecode, loop_line hreads hi]
  by_cases hgo : (readLine req (buf.take i)).1 = .ok .noRequest
  · rw [if_pos hgo, if_pos hgo, tryDecode, loop_fuel (m := (buf.drop (i + 2)).length + 1)
      (by rw [List.length_drop]; omega) (by omega)]
  · rw [if_neg hgo, if_neg hgo]

/-- No whole line is buffered. -/
theorem tryDecode_noLine (hreads : req.ReadsLines) (hi : findCRLF buf = none) :
    tryDecode req buf = ⟨.ok (if LF ∈ buf then .badRequest else .noRequest), req, buf⟩ := by
  by_cases hlf : LF ∈ buf
  · have hparse : parseLine buf = .lineBad := by simp [parseLine, hi, hlf]
    rcases hreads with hstate | hstate <;> simp [tryDecode, tryDecodeLoop, hstate, hparse, hlf]
  · have hparse : parseLine buf = .lineOpen := by simp [parseLine, hi, hlf]
    rcases hreads with hstate | hstate <;> simp [tryDecode, tryDecodeLoop, hstate, hparse, hlf]

/-- Only the body is missing. -/
theorem tryDecode_content (hstate : req.checkstate_ = .expectContent) :
    tryDecode req buf =
      if buf.length < toSize req.contentLength_ then ⟨.ok .noRequest, req, buf⟩
      else ⟨.ok .getRequest,
        { req with content_ := buf.take (toSize req.contentLength_), checkstate_ := .getAll },
        buf.drop (toSize req.contentLength_)⟩ := by
  by_cases hlen : buf.length < toSize req.contentLength_
  · simp [tryDecode, tryDecodeLoop, hstate, call_parseContent, hlen]
  · simp [tryDecode, tryDecodeLoop, hstate, call_parseContent, hlen]

/-- A request that is complete is not read again. -/
theorem tryDecode_getAll (hstate : req.checkstate_ = .getAll) :
    tryDecode req buf = ⟨.ok .badRequest, req, buf⟩ := by
  simp [tryDecode, tryDecodeLoop, hstate]

end

/-- Induction along the lines that `tryDecode` reads. -/
@[elab_as_elim]
theorem decode_induction {P : HttpRequest → Bytes → Prop}
    (getAll : ∀ req buf, req.checkstate_ = .getAll → P req buf)
    (content : ∀ req buf, req.checkstate_ = .expectContent → P req buf)
    (noLine : ∀ req buf, req.ReadsLines → findCRLF buf = none → P req buf)
    (stop : ∀ req buf i, req.ReadsLines → findCRLF buf = some i →
      (readLine req (buf.take i)).1 ≠ .ok .noRequest → P req buf)
    (line : ∀ req buf i, req.ReadsLines → findCRLF buf = some i →
      (readLine req (buf.take i)).1 = .ok .noRequest →
      P (readLine req (buf.take i)).2 (buf.drop (i + 2)) → P req buf)
    (req : HttpRequest) (buf : Bytes) : P req buf := by
  induction hn : buf.length using Nat.strong_induction_on generalizing req buf with
  | _ n ih =>
    subst hn
    -- a line that is read leaves fewer bytes
    by_cases hreads : req.ReadsLines
    · cases hi : findCRLF buf with
      | none => exact noLine req buf hreads hi
      | some i =>
        by_cases hgo : (readLine req (buf.take i)).1 = .ok .noRequest
        · have hlen := Separator.findPair_le hi
          refine line req buf i hreads hi hgo (ih _ ?_ _ _ rfl)
          rw [List.length_drop]
          omega
        · exact stop req buf i hreads hi hgo
    · cases hstate : req.checkstate_ with
      | expectRequestline => exact absurd (Or.inl hstate) hreads
      | expectHeader => exact absurd (Or.inr hstate) hreads
      | expectContent => exact content req buf hstate
      | getAll => exact getAll req buf hstate

/-- The line that completes a request leaves it in the last state. -/
lemma readLine_getRequest {req : HttpRequest} {line : Bytes}
    (h : (readLine req line).1 = .ok .getRequest) : (readLine req line).2.checkstate_ = .getAll := by
  rw [readLine] at h ⊢
  split at h
  · rcases requestLine_code req line with hcode | hcode <;> simp [hcode] at h
  · rename_i hstate
    rw [if_neg hstate]
    by_cases hline : line = []
    · rw [headerLine, if_pos hline] at h ⊢
      split at h
      · cases h
      · rename_i hcontent
        rw [if_neg hcontent]
    · simp only [headerLine, if_neg hline] at h
      split at h
      · cases h
      · split at h
        · split at h
          · split at h <;> cases h
          · cases h
        · cases h

/-- A request that is accepted is complete. -/
theorem tryDecode_getRequest {req : HttpRequest} {buf : Bytes}
    (h : (tryDecode req buf).result = .ok .getRequest) :
    (tryDecode req buf).req.checkstate_ = .getAll := by
  induction req, buf using decode_induction with
  | getAll req buf hstate =>
    rw [tryDecode_getAll hstate] at h
    cases h
  | content req buf hstate =>
    rw [tryDecode_content hstate] at h ⊢
    split at h
    · cases h
    · rename_i hlen
      rw [if_neg hlen]
  | noLine req buf hreads hi =>
    rw [tryDecode_noLine hreads hi] at h
    split at h <;> cases h
  | stop req buf i hreads hi hstop =>
    rw [tryDecode_line hreads hi, if_neg hstop] at h ⊢
    exact readLine_getRequest h
  | line req buf i hreads hi hgo ih =>
    rw [tryDecode_line hreads hi, if_pos hgo] at h ⊢
    exact ih h

/-- The decoder knows three answers. -/
theorem tryDecode_code {req : HttpRequest} {buf : Bytes} {code : HttpCode}
    (h : (tryDecode req buf).result = .ok code) :
    code = .noRequest ∨ code = .getRequest ∨ code = .badRequest := by
  induction req, buf using decode_induction with
  | getAll req buf hstate =>
    rw [tryDecode_getAll hstate] at h
    exact Or.inr (Or.inr (Except.ok.inj h).symm)
  | content req buf hstate =>
    rw [tryDecode_content hstate] at h
    split at h
    · exact Or.inl (Except.ok.inj h).symm
    · exact Or.inr (Or.inl (Except.ok.inj h).symm)
  | noLine req buf hreads hi =>
    rw [tryDecode_noLine hreads hi, Except.ok.injEq] at h
    split at h
    · exact Or.inr (Or.inr h.symm)
    · exact Or.inl h.symm
  | stop req buf i hreads hi hstop =>
    rw [tryDecode_line hreads hi, if_neg hstop] at h
    simp only [readLine] at h
    split at h
    · rcases requestLine_code req (buf.take i) with hcode | hcode
      · rw [hcode] at h
        exact Or.inl (Except.ok.inj h).symm
      · rw [hcode] at h
        exact Or.inr (Or.inr (Except.ok.inj h).symm)
    · rcases headerLine_code h with hcode | hcode
      · exact Or.inl hcode
      · exact Or.inr (Or.inl hcode)
  | line req buf i hreads hi hgo ih =>
    rw [tryDecode_line hreads hi, if_pos hgo] at h
    exact ih h

end HttpRequest
end Miniduo
