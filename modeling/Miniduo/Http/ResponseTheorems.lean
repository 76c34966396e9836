import Miniduo.Http.HttpServerTheorems

/-!
# What a response says

`headersAppend(format, ...)` appends its whole formatting array, and all three calls that build
the headers of a response choose that overload, the blank line included: `headers_` is three arrays
of 2048 bytes for every status and every length. Inside them stand the right lines, as long as the
length fits an `int`.

`loadResponse` answers every code with such a response except for a file that cannot be opened, of
which nothing is read, or whose size is not the one that was announced.
-/

namespace Miniduo
namespace HttpResponse

/-! ## Headers -/

/-- What `headersAppend(format, ...)` appends for a formatted text. -/
def formatted (text : Bytes) : Bytes :=
  text.take 2047 ++ List.replicate (2048 - (text.take 2047).length) 0

/-- The line that `addStatusLine` formats. -/
def statusLine (status : ℕ) : Bytes :=
  lit "HTTP/1.1 " ++ decimal status ++ 32 :: (responseStatus status).1 ++ [CR, LF]

/-- The line that `addContentLength` formats. -/
def contentLengthLine (len : ℤ) : Bytes := lit "Content-Length:" ++ decimalInt len ++ [CR, LF]

/-- The status line and headers of a response with a body of `len` bytes, as they are meant. -/
def exactHeaders (status len : ℕ) : Bytes :=
  statusLine status ++ contentLengthLine len ++ [CR, LF]

/-- The headers that the code builds. -/
def builtHeaders (status : ℕ) (len : ℤ) : Bytes :=
  formatted (statusLine status) ++ formatted (contentLengthLine len) ++ formatted [CR, LF]

lemma headers_of_calls (resp : HttpResponse) (status : ℕ) (len : ℤ) :
    ((resp.addStatusLine status).addHeaders len).headers_ =
      resp.headers_ ++ builtHeaders status len := by
  simp only [builtHeaders, addHeaders, addBlankLine, addContentLength, addStatusLine,
    headersAppend, formatted, statusLine, contentLengthLine, List.append_assoc]

@[simp] lemma length_formatted (text : Bytes) : (formatted text).length = 2048 := by
  simp only [formatted, List.length_append, List.length_replicate, List.length_take]
  omega

/-- Each of the three parts is a whole array, whatever its text is. -/
lemma length_builtHeaders (status : ℕ) (len : ℤ) : (builtHeaders status len).length = 6144 := by
  simp only [builtHeaders, List.length_append, length_formatted]

/-- The array of the blank line ends in zeros. -/
lemma getLast?_builtHeaders (status : ℕ) (len : ℤ) :
    (builtHeaders status len).getLast? = some 0 := by
  have hlast : (formatted [CR, LF]).getLast? = some 0 := by decide +kernel
  rw [builtHeaders, List.getLast?_append, hlast]
  rfl

/-- **The headers are never the exact text**: for every status and every length, they end in a zero
byte where the text ends in a line feed. -/
theorem headers_not_exact (resp : HttpResponse) (status len : ℕ) :
    ((resp.clear.addStatusLine status).addHeaders (toInt len)).headers_ ≠
      exactHeaders status len := by
  intro h
  rw [headers_of_calls] at h
  have hlast : (exactHeaders status len).getLast? = some LF := by
    rw [exactHeaders, List.getLast?_append]
    rfl
  rw [← h, List.getLast?_append, getLast?_builtHeaders, Option.some_or] at hlast
  exact absurd (Option.some.inj hlast) (by decide)

/-- The response to a request for a file that does not exist. -/
theorem headers_not_exact_notFound :
    ¬∀ status len : ℕ, responseStatus status ≠ ([], []) →
      (((({} : HttpResponse).clear).addStatusLine status).addHeaders (toInt len)).headers_ =
        exactHeaders status len := by
  intro h
  have h404 := h 404 49 (by decide)
  revert h404
  decide +kernel

/-! ## Lengths -/

lemma toInt_range (n : ℤ) : -2 ^ 31 ≤ toInt n ∧ toInt n < 2 ^ 31 := by
  unfold toInt
  omega

/-- The line of an `int` fits the formatting array. -/
lemma length_contentLengthLine_lt {len : ℤ} (h : -2 ^ 31 ≤ len ∧ len < 2 ^ 31) :
    (contentLengthLine len).length < 2047 := by
  have hdigits : (decimal len.natAbs).length ≤ 10 := by
    rw [decimal, List.length_map]
    exact Nat.toDigits_length 10 _ 10 (by norm_num) (by omega)
  have hint : (decimalInt len).length ≤ 11 := by
    unfold decimalInt
    split
    · rw [List.length_cons]
      omega
    · omega
  have hname : (lit "Content-Length:").length = 15 := by decide
  simp only [contentLengthLine, List.length_append, hname, List.length_cons, List.length_nil]
  omega

lemma zero_notMem_contentLengthLine (len : ℤ) : (0 : Byte) ∉ contentLengthLine len := by
  have hdecimal : (0 : Byte) ∉ decimal len.natAbs :=
    fun h => absurd (isdigit_of_mem_decimal h) (by decide)
  have hint : (0 : Byte) ∉ decimalInt len := by
    unfold decimalInt
    split
    · rw [List.mem_cons]
      rintro (h | h)
      · exact absurd h (by decide)
      · exact hdecimal h
    · exact hdecimal
  simp only [contentLengthLine, List.mem_append, not_or]
  exact ⟨⟨by decide, hint⟩, by decide⟩

/-- What stands in front of the first zero of the array is the text, as far as it fits. -/
lemma takeWhile_formatted {text : Bytes} (h : (0 : Byte) ∉ text) :
    (formatted text).takeWhile (· ≠ 0) = text.take 2047 := by
  have hpos : ∀ c ∈ text.take 2047, decide (c ≠ 0) = true := by
    intro c hc
    exact decide_eq_true fun h0 => h (h0 ▸ List.mem_of_mem_take hc)
  obtain ⟨k, hk⟩ : ∃ k, 2048 - (text.take 2047).length = k + 1 := by
    refine ⟨2047 - (text.take 2047).length, ?_⟩
    rw [List.length_take]
    omega
  rw [formatted, List.takeWhile_append_of_pos hpos, hk, List.replicate_succ,
    List.takeWhile_cons_of_neg (by simp), List.append_nil]

/-- The headers tell two lengths apart, when one of them is an `int`. -/
lemma builtHeaders_injective {status : ℕ} {m n : ℤ} (hm : -2 ^ 31 ≤ m ∧ m < 2 ^ 31)
    (h : builtHeaders status m = builtHeaders status n) : m = n := by
  simp only [builtHeaders, List.append_assoc] at h
  have hline : formatted (contentLengthLine m) = formatted (contentLengthLine n) :=
    List.append_cancel_right (List.append_cancel_left h)
  have htake := congrArg (List.takeWhile (· ≠ (0 : Byte))) hline
  rw [takeWhile_formatted (zero_notMem_contentLengthLine m),
    takeWhile_formatted (zero_notMem_contentLengthLine n)] at htake
  have hshort := length_contentLengthLine_lt hm
  have hlen := congrArg List.length htake
  rw [List.length_take, List.length_take] at hlen
  rw [List.take_of_length_le (by omega), List.take_of_length_le (by omega)] at htake
  exact decimalInt_injective (List.append_cancel_left (List.append_cancel_right htake))

end HttpResponse

namespace HttpServer

open HttpResponse (responseStatus builtHeaders)

/-! ## Complete responses -/

/-- Status line and Content-Length announce `len` bytes under the status. -/
def Describes (resp : HttpResponse) (status : ℕ) (len : ℤ) : Prop :=
  resp.headers_ = builtHeaders status len

/-- The response of `loadFailResponse`: the body of the status, and nothing behind it. -/
def Failed (resp : HttpResponse) (status : ℕ) : Prop :=
  Describes resp status resp.body_.length ∧ resp.body_ = (responseStatus status).2 ∧
    resp.respComplete_ = true

/-- The response to a file request: the bytes read, and those that remain are announced with them.
Nothing remains behind a `read` that has returned 0, which is the end of the file. A file that cannot
be opened or read is an internal error; one whose `fstat` fails has the size that is found in its
place. -/
def FileAnswered (fs : FileSystem) (filepath : Bytes) (resp : HttpResponse) : Prop :=
  let filefd := fs.openFile filepath
  if filefd < 0 then Failed resp 500
  else
    match fs.readFile filefd with
    | none => Failed resp 500
    | some buf =>
      let remaining := if buf = [] then 0 else (fs.size filefd - buf.length).toNat
      Describes resp 200 (resp.body_.length + remaining) ∧ resp.body_ = buf ∧
        (resp.respComplete_ = true ↔ remaining = 0)

/-- The code that `onMsg` answers, from that of the decoder. -/
def answeredCode (resourcePath_ : Bytes) (fs : FileSystem) (req : HttpRequest)
    (retcode : HttpCode) : HttpCode :=
  if retcode = .getRequest then handleRequest resourcePath_ fs req else retcode

/-- The response that a code asks for. -/
def Complete (resourcePath_ : Bytes) (fs : FileSystem) (req : HttpRequest) (resp : HttpResponse) :
    HttpCode → Prop
  | .internalError => Failed resp 500
  | .badRequest => Failed resp 400
  | .forbiddenRequest => Failed resp 403
  | .noResource => Failed resp 404
  | .fileRequest => FileAnswered fs (resourcePath_ ++ req.URL_) resp
  | _ => False

/-- What `loadResponse` relies on for a file: `open` succeeds, `read` returns a byte at least, and the
size that it converts to `int` is that of the body. -/
structure Servable (fs : FileSystem) (filepath : Bytes) : Prop where
  opened : 0 < fs.openFile filepath
  read : ∃ buf, fs.readFile (fs.openFile filepath) = some buf ∧ buf ≠ [] ∧
    toInt (fs.size (fs.openFile filepath)) = max (fs.size (fs.openFile filepath)) buf.length

/-- For a size that is one, the body has it iff no more was read and it fits an `int`. -/
lemma toInt_eq_max_iff {size : ℤ} (hsize : 0 ≤ size) (n : ℕ) :
    toInt size = max size n ↔ (n : ℤ) ≤ size ∧ size < 2 ^ 31 := by
  unfold toInt
  omega

section
variable {resourcePath_ : Bytes} {fs : FileSystem} {req : HttpRequest} {resp : HttpResponse}

lemma loadFailResponse_failed (status : ℕ) : Failed (loadFailResponse {} status) status := by
  refine ⟨?_, ?_, rfl⟩
  · simp only [Describes, loadFailResponse, HttpResponse.addBody, HttpResponse.headers_of_calls]
    rfl
  · rfl

/-- The response to a file request when `read` is called. -/
def openedResponse (fs : FileSystem) (filepath : Bytes) : HttpResponse :=
  (({ filefd_ := fs.openFile filepath } : HttpResponse).addStatusLine 200).addHeaders
    (toInt (fs.size (fs.openFile filepath)))

/-- What `read` returns decides the rest. -/
lemma loadResponse_file_eq (hopen : 0 < fs.openFile (resourcePath_ ++ req.URL_)) :
    loadResponse resourcePath_ fs req {} .fileRequest =
      match fs.readFile (fs.openFile (resourcePath_ ++ req.URL_)) with
      | none => .error .assertFailed
      | some [] => .ok (openedResponse fs (resourcePath_ ++ req.URL_))
      | some buf => .ok { (openedResponse fs (resourcePath_ ++ req.URL_)).addBody buf with
          respComplete_ :=
            !decide ((buf.length : ℤ) < fs.size (fs.openFile (resourcePath_ ++ req.URL_))) } := by
  have hassert : fs.openFile (resourcePath_ ++ req.URL_) > 0 := hopen
  unfold loadResponse
  simp only [assertThat_pos hassert, except_ok_bind]
  rfl

/-- The response that `loadResponse` builds for a file of which `buf` was read. -/
lemma loadResponse_read {buf : Bytes} (hopen : 0 < fs.openFile (resourcePath_ ++ req.URL_))
    (hread : fs.readFile (fs.openFile (resourcePath_ ++ req.URL_)) = some buf) :
    ∃ resp, loadResponse resourcePath_ fs req {} .fileRequest = .ok resp ∧
      Describes resp 200 (toInt (fs.size (fs.openFile (resourcePath_ ++ req.URL_)))) ∧
      resp.body_ = buf ∧ (resp.respComplete_ = true ↔
        buf ≠ [] ∧ fs.size (fs.openFile (resourcePath_ ++ req.URL_)) ≤ buf.length) := by
  have hheaders : (openedResponse fs (resourcePath_ ++ req.URL_)).headers_ =
      builtHeaders 200 (toInt (fs.size (fs.openFile (resourcePath_ ++ req.URL_)))) := by
    rw [openedResponse, HttpResponse.headers_of_calls, List.nil_append]
  rw [loadResponse_file_eq hopen, hread]
  cases buf with
  | nil =>
    have hincomplete : (openedResponse fs (resourcePath_ ++ req.URL_)).respComplete_ = false := rfl
    exact ⟨_, rfl, hheaders, rfl, by simp [hincomplete]⟩
  | cons c buf => exact ⟨_, rfl, hheaders, rfl, by simp⟩

/-- A file request is answered iff its file can be served. -/
lemma loadResponse_file_iff :
    (∃ resp, loadResponse resourcePath_ fs req {} .fileRequest = .ok resp ∧
      FileAnswered fs (resourcePath_ ++ req.URL_) resp) ↔
      Servable fs (resourcePath_ ++ req.URL_) := by
  by_cases hopen : 0 < fs.openFile (resourcePath_ ++ req.URL_)
  · cases hread : fs.readFile (fs.openFile (resourcePath_ ++ req.URL_)) with
    | none =>
      -- the assertion behind `read` fails
      constructor
      · rintro ⟨resp, hload, -⟩
        rw [loadResponse_file_eq hopen, hread] at hload
        cases hload
      · rintro ⟨-, buf, hbuf, -⟩
        rw [hread] at hbuf
        cases hbuf
    | some buf =>
      obtain ⟨resp, hload, hheaders, hbody, hcomplete⟩ := loadResponse_read hopen hread
      generalize hsize : fs.size (fs.openFile (resourcePath_ ++ req.URL_)) = size
        at hheaders hcomplete
      have hanswered : FileAnswered fs (resourcePath_ ++ req.URL_) resp ↔
          buf ≠ [] ∧ toInt size = max size buf.length := by
        have hlength : Describes resp 200 (resp.body_.length + (size - buf.length).toNat) ↔
            toInt size = buf.length + (size - buf.length).toNat := by
          unfold Describes at hheaders ⊢
          rw [hheaders, hbody]
          exact ⟨HttpResponse.builtHeaders_injective (HttpResponse.toInt_range _),
            fun h => congrArg _ h⟩
        unfold FileAnswered
        simp only [if_neg (not_lt.mpr (le_of_lt hopen)), hread, hsize]
        by_cases hnil : buf = []
        · -- at the end of the file `respComplete_` is left as it was
          simp [hnil, hcomplete]
        · simp only [if_neg hnil]
          rw [hlength, hcomplete, hbody]
          simp only [true_and, ne_eq, hnil, not_false_eq_true]
          omega
      constructor
      · rintro ⟨resp', hload', hfile⟩
        rw [hload, Except.ok.injEq] at hload'
        rw [← hload', hanswered] at hfile
        exact ⟨hopen, buf, hread, by rw [hsize]; exact hfile⟩
      · rintro ⟨-, buf', hbuf', hcond⟩
        rw [hread, Option.some.injEq] at hbuf'
        subst hbuf'
        rw [hsize] at hcond
        exact ⟨resp, hload, hanswered.mpr hcond⟩
  · -- the assertion behind `open` fails
    constructor
    · rintro ⟨resp, hload, -⟩
      have hassert : ¬fs.openFile (resourcePath_ ++ req.URL_) > 0 := hopen
      simp only [loadResponse, assertThat_neg hassert, except_error_bind] at hload
      cases hload
    · intro hservable
      exact absurd hservable.opened hopen

/-- In a cleared response, `loadResponse` builds what the code asks for iff the file, where there is
one, can be served. -/
lemma loadResponse_complete_iff {retcode : HttpCode}
    (hcode : retcode ≠ .noRequest ∧ retcode ≠ .getRequest ∧ retcode ≠ .closedConnection) :
    (∃ resp, loadResponse resourcePath_ fs req {} retcode = .ok resp ∧
      Complete resourcePath_ fs req resp retcode) ↔
      (retcode = .fileRequest → Servable fs (resourcePath_ ++ req.URL_)) := by
  have hfail : ∀ status, (∃ resp, (.ok (loadFailResponse {} status) : Except Fault HttpResponse)
      = .ok resp ∧ Failed resp status) ↔ True :=
    fun status => iff_true_intro ⟨_, rfl, loadFailResponse_failed status⟩
  cases retcode with
  | noRequest => exact absurd rfl hcode.1
  | getRequest => exact absurd rfl hcode.2.1
  | closedConnection => exact absurd rfl hcode.2.2
  | internalError => simpa [loadResponse, Complete] using (hfail 500)
  | badRequest => simpa [loadResponse, Complete] using (hfail 400)
  | forbiddenRequest => simpa [loadResponse, Complete] using (hfail 403)
  | noResource => simpa [loadResponse, Complete] using (hfail 404)
  | fileRequest => simpa [Complete] using loadResponse_file_iff

lemma handleRequest_code (resourcePath_ : Bytes) (fs : FileSystem) (req : HttpRequest) :
    handleRequest resourcePath_ fs req = .noResource ∨
      handleRequest resourcePath_ fs req = .forbiddenRequest ∨
      handleRequest resourcePath_ fs req = .badRequest ∨
      handleRequest resourcePath_ fs req = .fileRequest := by
  unfold handleRequest
  split
  · exact Or.inl rfl
  · split
    · exact Or.inr (Or.inl rfl)
    · split
      · exact Or.inr (Or.inr (Or.inl rfl))
      · exact Or.inr (Or.inr (Or.inr rfl))

/-- **Every decoded request gets a complete response iff the file it asks for, if it asks for one,
can be served.** -/
theorem onMsg_complete_iff (resourcePath_ : Bytes) (fs : FileSystem) {s s₁ : Session}
    {retcode : HttpCode} (hresp : s.resp = {})
    (hdecode : decodeHttpRequest s = .ok (retcode, s₁)) (hdecoded : retcode ≠ .noRequest) :
    (∃ s', onMsg resourcePath_ fs s = .ok s' ∧
      Complete resourcePath_ fs s₁.req s'.resp (answeredCode resourcePath_ fs s₁.req retcode) ∧
      s'.sent = s.sent ++ [s'.resp.headers_, s'.resp.body_]) ↔
      (answeredCode resourcePath_ fs s₁.req retcode = .fileRequest →
        Servable fs (resourcePath_ ++ s₁.req.URL_)) := by
  have hfields : (retcode = .getRequest ∨ retcode = .badRequest) ∧ s₁.resp = s.resp ∧
      s₁.sent = s.sent := by
    unfold decodeHttpRequest at hdecode
    split at hdecode
    · cases hdecode
      exact absurd rfl hdecoded
    · cases hresult : (s.req.tryDecode s.input_).result with
      | error e => simp [hresult] at hdecode
      | ok code =>
        simp only [hresult, Except.ok.injEq, Prod.mk.injEq] at hdecode
        obtain ⟨rfl, rfl⟩ := hdecode
        exact ⟨(HttpRequest.tryDecode_code hresult).resolve_left hdecoded, rfl, rfl⟩
  obtain ⟨hcode, hresp₁, hsent⟩ := hfields
  rw [hresp] at hresp₁
  have hanswered : answeredCode resourcePath_ fs s₁.req retcode ≠ .noRequest ∧
      answeredCode resourcePath_ fs s₁.req retcode ≠ .getRequest ∧
      answeredCode resourcePath_ fs s₁.req retcode ≠ .closedConnection := by
    unfold answeredCode
    rcases hcode with rfl | rfl
    · rw [if_pos rfl]
      rcases handleRequest_code resourcePath_ fs s₁.req with h | h | h | h <;> rw [h] <;> decide
    · rw [if_neg (by decide)]
      decide
  rw [← loadResponse_complete_iff hanswered]
  -- `onMsg` loads the response and sends its two parts
  have honMsg : onMsg resourcePath_ fs s =
      (loadResponse resourcePath_ fs s₁.req {} (answeredCode resourcePath_ fs s₁.req retcode)).bind
        fun resp => .ok (sendResponse { s₁ with
          resp := resp
          answers := s₁.answers ++ [⟨answeredCode resourcePath_ fs s₁.req retcode, s₁.req, fs⟩] }) := by
    unfold onMsg
    rw [hdecode, except_ok_bind, ← hresp₁]
    simp only [if_neg hdecoded]
    rfl
  rw [honMsg]
  constructor
  · rintro ⟨s', honMsg', hcomplete, -⟩
    cases hload : loadResponse resourcePath_ fs s₁.req {}
        (answeredCode resourcePath_ fs s₁.req retcode) with
    | error e =>
      rw [hload] at honMsg'
      cases honMsg'
    | ok resp =>
      rw [hload] at honMsg'
      obtain rfl := Except.ok.inj honMsg'
      refine ⟨resp, rfl, ?_⟩
      rwa [sendResponse, send_resp, send_resp] at hcomplete
  · rintro ⟨resp, hload, hcomplete⟩
    refine ⟨_, by rw [hload]; rfl, ?_, ?_⟩
    · rwa [sendResponse, send_resp, send_resp]
    · rw [sendResponse, send_sent, send_sent, send_resp, send_resp]
      simp [hsent]

end

/-- A connection that has received a request for `/a`. -/
def fileRequested : Session := { input_ := lit "GET /a HTTP/1.1\r\n\r\n" }

/-- Every path names a readable file of `size` bytes, of which `read` returns `buf`. -/
def sameFile (filefd size : ℤ) (buf : Option Bytes) : FileSystem :=
  ⟨fun _ => some ⟨true, false⟩, fun _ => filefd, fun _ => size, fun _ => buf⟩

lemma decode_fileRequested : ∃ s₁, decodeHttpRequest fileRequested = .ok (.getRequest, s₁) := by
  have hcode : (decodeHttpRequest fileRequested).map (·.1) = .ok .getRequest := by decide
  cases hdecode : decodeHttpRequest fileRequested with
  | error e =>
    rw [hdecode] at hcode
    cases hcode
  | ok r =>
    rw [hdecode] at hcode
    obtain ⟨code, s₁⟩ := r
    obtain rfl : code = .getRequest := Except.ok.inj hcode
    exact ⟨s₁, rfl⟩

/-- Of a file of 5000 bytes the first 3 are read; the rest remains. -/
theorem onMsg_complete_short :
    ∃ s₁ s' : Session, onMsg [] (sameFile 7 5000 (some [1, 2, 3])) fileRequested = .ok s' ∧
      FileAnswered (sameFile 7 5000 (some [1, 2, 3])) ([] ++ s₁.req.URL_) s'.resp := by
  obtain ⟨s₁, hdecode⟩ := decode_fileRequested
  obtain ⟨s', honMsg, hcomplete, -⟩ :=
    (onMsg_complete_iff [] (sameFile 7 5000 (some [1, 2, 3])) rfl hdecode (by decide)).mpr
      fun _ => ⟨show (0 : ℤ) < 7 by decide, [1, 2, 3], rfl,
        List.cons_ne_nil _ _, show toInt 5000 = max 5000 (3 : ℕ) from
          (toInt_eq_max_iff (by decide) 3).mpr ⟨by decide, by decide⟩⟩
  exact ⟨s₁, s', honMsg, hcomplete⟩

/-- The file has gone, or there is no descriptor left, when `open` is called: its assertion ends
the process. -/
theorem onMsg_not_complete :
    ¬∀ (resourcePath_ : Bytes) (fs : FileSystem) (s s₁ : Session) (retcode : HttpCode),
      s.resp = {} → decodeHttpRequest s = .ok (retcode, s₁) → retcode ≠ .noRequest →
        ∃ s', onMsg resourcePath_ fs s = .ok s' ∧
          Complete resourcePath_ fs s₁.req s'.resp
            (answeredCode resourcePath_ fs s₁.req retcode) := by
  intro h
  obtain ⟨s₁, hdecode⟩ := decode_fileRequested
  obtain ⟨s', honMsg, -⟩ := h [] (sameFile (-1) 0 none) _ s₁ _ rfl hdecode (by decide)
  have hfault : (onMsg [] (sameFile (-1) 0 none) fileRequested).map (fun _ => ())
      = .error .assertFailed := by decide
  rw [honMsg] at hfault
  cases hfault

end HttpServer
end Miniduo
