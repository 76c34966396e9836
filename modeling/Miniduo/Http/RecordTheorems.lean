import Miniduo.LoggingTheorems
import Miniduo.Http.PathTheorems

/-!
# What `logv` appends

`logv` formats into a buffer of 4096 characters and takes the length that `vsnprintf` returns for
the length of the record. The two agree as long as the text and its terminating null fit; a longer
text is read past the end of the buffer, and a negative result is the length of no string. The lines
that a client sends are logged whole, so it is the client who decides which of them happens.
-/

namespace Miniduo
namespace Logger

/-! ## The record of a text -/

/-- What is passed to `append` is the front of the text, as far as it fits; nothing is passed where
the level is not logged. -/
def RecordOk (level_ level : LogLevel) (text : Option Bytes) : Prop :=
  ∀ (l : Logger) (buffer : LogBuffer) (timeNow tid : Bytes),
    ∃ l', l.logv level_ level buffer text timeNow tid = .ok l' ∧
      if level.value < level_.value then l' = l
      else ∃ t record, text = some t ∧ record <+: t ∧ record.length ≤ 4095 ∧
        l' = l.append timeNow tid record

section
variable {level_ level : LogLevel} {l : Logger} {buffer : LogBuffer} {text : Bytes}
  {timeNow tid : Bytes}

/-- The second comparison never differs from the first. -/
lemma log_eq_logv (text : Option Bytes) :
    l.log level_ level buffer text timeNow tid = l.logv level_ level buffer text timeNow tid := by
  unfold log logv
  split <;> split <;> first | rfl | omega

lemma string_natCast {n : ℕ} (hn : n < 2 ^ 31) :
    string buffer n = if n ≤ 4096 then .ok (buffer.chars.take n) else .error .outOfBounds := by
  have hcount : ((n : ℤ) % 2 ^ 64).toNat = n := by omega
  have hmax : ¬maxSize < n := by
    unfold maxSize
    omega
  unfold string
  simp only [hcount, if_neg hmax, buffer.size]

/-- Messages are told apart by their records. -/
lemma append_inj {msg msg' : Bytes} (h : l.append timeNow tid msg = l.append timeNow tid msg') :
    msg = msg' := by
  have happended := congrArg Logger.appended h
  simpa [append, record] using happended

/-- A negative length is a huge one. -/
lemma string_negative : string buffer (-1) = .error .lengthError := by
  have hmax : maxSize < ((-1 : ℤ) % 2 ^ 64).toNat := by decide
  unfold string
  simp only [if_pos hmax]

/-- A text that fits is the record. -/
lemma logv_fits (hlevel : ¬level.value < level_.value) (htext : text.length ≤ 4095) :
    l.logv level_ level buffer (some text) timeNow tid = .ok (l.append timeNow tid text) := by
  have hint : text.length < 2 ^ 31 := by omega
  unfold logv vsnprintf
  simp only [if_neg hlevel, if_pos hint, string_natCast hint]
  rw [if_pos (by omega), List.take_of_length_le htext, List.take_left]
  rfl

/-- A text of 4096 characters loses its last one to the terminating null, which is recorded. -/
lemma logv_null (hlevel : ¬level.value < level_.value) (htext : text.length = 4096) :
    l.logv level_ level buffer (some text) timeNow tid =
      .ok (l.append timeNow tid (text.take 4095 ++ [0])) := by
  have hint : text.length < 2 ^ 31 := by omega
  have hstored : (text.take 4095).length = 4095 := by
    rw [List.length_take]
    omega
  unfold logv vsnprintf
  simp only [if_neg hlevel, if_pos hint, string_natCast hint]
  rw [if_pos (by omega), hstored, htext, List.take_append, hstored,
    List.take_of_length_le (by omega)]
  rfl

/-- A longer one makes `std::string` read past the buffer. -/
lemma logv_long (hlevel : ¬level.value < level_.value) (hlong : 4096 < text.length)
    (hint : text.length < 2 ^ 31) :
    l.logv level_ level buffer (some text) timeNow tid = .error .outOfBounds := by
  unfold logv vsnprintf
  simp only [if_neg hlevel, if_pos hint, string_natCast hint, if_neg (not_le.mpr hlong)]
  rfl

/-- A negative result is the length of no string. -/
lemma logv_failed (hlevel : ¬level.value < level_.value) {text : Option Bytes}
    (hfails : ∀ t, text = some t → 2 ^ 31 ≤ t.length) :
    l.logv level_ level buffer text timeNow tid = .error .lengthError := by
  unfold logv vsnprintf
  simp only [if_neg hlevel]
  cases text with
  | none =>
    simp only [string_negative]
    rfl
  | some text =>
    simp only [if_neg (not_lt.mpr (hfails text rfl)), string_negative]
    rfl

end

/-- There is a buffer to format into. -/
def LogBuffer.zero : LogBuffer := ⟨List.replicate 4096 0, List.length_replicate⟩

/-- A text that does not fit has no record that is a part of it. -/
lemma not_recordOk_of_long {level_ level : LogLevel} (hlevel : ¬level.value < level_.value)
    {text : Bytes} (hlong : 4095 < text.length) : ¬RecordOk level_ level (some text) := by
  intro hok
  obtain ⟨l', hlogv, hl'⟩ := hok {} LogBuffer.zero [] []
  rcases Nat.lt_or_ge text.length (2 ^ 31) with hint | hint
  · rcases (show 4096 ≤ text.length from hlong).eq_or_lt with hnull | hmore
    · -- the record has 4096 characters
      rw [logv_null hlevel hnull.symm, Except.ok.injEq] at hlogv
      rw [if_neg hlevel, ← hlogv] at hl'
      obtain ⟨t, record, -, -, hlength, happend⟩ := hl'
      rw [← append_inj happend, List.length_append, List.length_take, List.length_singleton]
        at hlength
      omega
    · rw [logv_long hlevel hmore hint] at hlogv
      cases hlogv
  · rw [logv_failed hlevel (fun t ht => Option.some.inj ht ▸ hint)] at hlogv
    cases hlogv

/-- Where the level is not logged there is nothing to get wrong. -/
lemma recordOk_of_filtered {level_ level : LogLevel} (hlevel : level.value < level_.value)
    (text : Option Bytes) : RecordOk level_ level text := by
  intro l buffer timeNow tid
  refine ⟨l, ?_, if_pos hlevel ▸ rfl⟩
  rw [logv, if_pos hlevel]
  rfl

lemma recordOk_of_fits (level_ level : LogLevel) {text : Bytes} (hfits : text.length ≤ 4095) :
    RecordOk level_ level (some text) := by
  by_cases hlevel : level.value < level_.value
  · exact recordOk_of_filtered hlevel (some text)
  · intro l buffer timeNow tid
    refine ⟨_, logv_fits hlevel hfits, ?_⟩
    rw [if_neg hlevel]
    exact ⟨text, text, rfl, List.prefix_refl text, hfits, rfl⟩

/-- **What `logv` appends is the front of the text exactly where the text and its terminating null
fit into the buffer**, or nothing is logged. -/
theorem recordOk_iff_fits (level_ level : LogLevel) (text : Option Bytes) :
    RecordOk level_ level text ↔
      level.value < level_.value ∨ ∃ t, text = some t ∧ t.length ≤ 4095 := by
  by_cases hlevel : level.value < level_.value
  · exact iff_of_true (recordOk_of_filtered hlevel text) (Or.inl hlevel)
  · rw [or_iff_right hlevel]
    constructor
    · intro hok
      cases text with
      | none =>
        obtain ⟨l', hlogv, -⟩ := hok {} LogBuffer.zero [] []
        rw [logv_failed hlevel fun t ht => by cases ht] at hlogv
        cases hlogv
      | some t =>
        exact ⟨t, rfl, not_lt.mp fun hlong => not_recordOk_of_long hlevel hlong hok⟩
    · rintro ⟨t, rfl, hfits⟩
      exact recordOk_of_fits level_ level hfits

end Logger

/-! ## The lines of a client -/

namespace HttpRequest

open Logger

/-- `http_log(...)`, which is `log_trace("[http] " ...)`, in `httpmsg.cpp`. -/
def httpLog (file : Bytes) (line : ℕ) (function message : Bytes) : Bytes :=
  logText (lit "[TRACE]") file line function (lit "[http] " ++ message)

/-- What `parseRequstline` logs of its line; `%s` ends at a null. -/
def parseRequstlineLogs (file line : Bytes) : List Bytes :=
  let (method, ss) := extractWord line
  let (URL, ss) := extractWord ss
  let (version, _) := extractWord ss
  [httpLog file 57 (lit "parseRequstline")
      (lit "HttpRequest::parseRequestline(): " ++ cString line),
    httpLog file 61 (lit "parseRequstline")
      (lit "httpRequest line: method[" ++ cString method ++ lit "], URL[" ++ cString URL ++
        lit "], version[" ++ cString version ++ lit "]")]

/-- What `parseHeaders` logs of its line. -/
def parseHeadersLogs (file line : Bytes) : List Bytes :=
  httpLog file 106 (lit "parseHeaders") (lit "HttpRequest::parseHeaders(): " ++ cString line) ::
    if line ≠ [] ∧ line.idxOf? 58 = none then
      [httpLog file 128 (lit "parseHeaders") (lit "Unkown header")]
    else []

lemma cString_length_le (s : Bytes) : (cString s).length ≤ s.length :=
  (List.takeWhile_prefix _).length_le

/-- A word and the rest of the stream are parts of it. -/
lemma extractWord_length_le (s : Bytes) :
    (extractWord s).1.length + (extractWord s).2.length ≤ s.length := by
  have hspace := (List.dropWhile_suffix isspace (l := s)).length_le
  have hsplit := congrArg List.length
    (List.takeWhile_append_dropWhile (p := (!isspace ·)) (l := s.dropWhile isspace))
  rw [List.length_append] at hsplit
  exact hsplit.trans_le hspace

lemma length_httpLog (file function message : Bytes) (line : ℕ) :
    (httpLog file line function message).length =
      21 + file.length + (decimal line).length + function.length + message.length := by
  have hlevelstr : (lit "[TRACE]").length = 7 := rfl
  have hopen : (lit "[").length = 1 := rfl
  have hcolon : (lit ":").length = 1 := rfl
  have hmiddle : (lit "][").length = 2 := rfl
  have hclose : (lit "]: ").length = 3 := rfl
  have hhttp : (lit "[http] ").length = 7 := rfl
  simp only [httpLog, logText, List.length_append, hlevelstr, hopen, hcolon, hmiddle, hclose, hhttp]
  omega

/-- The line itself is the longest part of what is logged of it. -/
lemma length_requestline (file line : Bytes) :
    (httpLog file 57 (lit "parseRequstline")
      (lit "HttpRequest::parseRequestline(): " ++ cString line)).length =
      71 + file.length + (cString line).length := by
  have hline : (decimal 57).length = 2 := rfl
  have hfunction : (lit "parseRequstline").length = 15 := rfl
  have hmessage : (lit "HttpRequest::parseRequestline(): ").length = 33 := rfl
  rw [length_httpLog, List.length_append, hline, hfunction, hmessage]
  omega

/-- The three words together are no longer than the line. -/
lemma length_le_of_mem_parseRequstlineLogs {file line text : Bytes}
    (h : text ∈ parseRequstlineLogs file line) : text.length ≤ 82 + file.length + line.length := by
  rcases List.mem_cons.mp h with hline | hwords
  · have hstring := cString_length_le line
    rw [hline, length_requestline]
    omega
  · have hmethod := extractWord_length_le line
    have hURL := extractWord_length_le (extractWord line).2
    have hversion := extractWord_length_le (extractWord (extractWord line).2).2
    have hmethod' := cString_length_le (extractWord line).1
    have hURL' := cString_length_le (extractWord (extractWord line).2).1
    have hversion' := cString_length_le (extractWord (extractWord (extractWord line).2).2).1
    have htext : text = httpLog file 61 (lit "parseRequstline")
        (lit "httpRequest line: method[" ++ cString (extractWord line).1 ++ lit "], URL[" ++
          cString (extractWord (extractWord line).2).1 ++ lit "], version[" ++
          cString (extractWord (extractWord (extractWord line).2).2).1 ++ lit "]") :=
      List.mem_singleton.mp hwords
    have hnumber : (decimal 61).length = 2 := rfl
    have hfunction : (lit "parseRequstline").length = 15 := rfl
    have hfirst : (lit "httpRequest line: method[").length = 25 := rfl
    have hsecond : (lit "], URL[").length = 7 := rfl
    have hthird : (lit "], version[").length = 11 := rfl
    have hlast : (lit "]").length = 1 := rfl
    rw [htext, length_httpLog, hnumber, hfunction]
    simp only [List.length_append, hfirst, hsecond, hthird, hlast]
    omega

lemma length_le_of_mem_parseHeadersLogs {file line text : Bytes}
    (h : text ∈ parseHeadersLogs file line) : text.length ≤ 65 + file.length + line.length := by
  have hfunction : (lit "parseHeaders").length = 12 := rfl
  rcases List.mem_cons.mp h with hline | hunknown
  · have hstring := cString_length_le line
    have hnumber : (decimal 106).length = 3 := rfl
    have hmessage : (lit "HttpRequest::parseHeaders(): ").length = 29 := rfl
    rw [hline, length_httpLog, List.length_append, hnumber, hfunction, hmessage]
    omega
  · split at hunknown
    · have hnumber : (decimal 128).length = 3 := rfl
      have hmessage : (lit "Unkown header").length = 13 := rfl
      rw [List.mem_singleton.mp hunknown, length_httpLog, hnumber, hfunction, hmessage]
      omega
    · cases hunknown

/-- **Short lines are logged whole**, whatever is in them. -/
theorem recordOk_of_short {file line : Bytes} (hshort : file.length + line.length ≤ 4013)
    (level_ : LogLevel) :
    ∀ text ∈ parseRequstlineLogs file line ++ parseHeadersLogs file line,
      RecordOk level_ .TRACE (some text) := by
  intro text htext
  refine recordOk_of_fits level_ .TRACE ?_
  rcases List.mem_append.mp htext with hrequest | hheader
  · have := length_le_of_mem_parseRequstlineLogs hrequest
    omega
  · have := length_le_of_mem_parseHeadersLogs hheader
    omega

/-- **A client that sends a long request line makes the logger read past its buffer.** -/
theorem log_of_long_requestline {file line : Bytes} (hnull : 0 ∉ line)
    (hlong : 4025 < file.length + line.length) (hint : file.length + line.length < 2 ^ 30)
    {level_ : LogLevel} (hlevel : level_.value ≤ LogLevel.TRACE.value) (l : Logger)
    (buffer : LogBuffer) (timeNow tid : Bytes) :
    ∃ text ∈ parseRequstlineLogs file line,
      l.log level_ .TRACE buffer (some text) timeNow tid = .error .outOfBounds := by
  have hstring : cString line = line := by
    have happend := cString_append_of_notMem hnull []
    rwa [List.append_nil, show cString [] = [] from rfl, List.append_nil] at happend
  have hlength := length_requestline file line
  rw [hstring] at hlength
  refine ⟨_, List.mem_cons_self, (log_eq_logv _).trans (logv_long (not_lt.mpr hlevel) ?_ ?_)⟩
  · rw [hstring, hlength]
    omega
  · rw [hstring, hlength]
    omega

/-- A request line of five thousand letters. -/
def longLine : Bytes := List.replicate 5000 97

theorem not_recordOk_longLine :
    ∃ text ∈ parseRequstlineLogs (lit "miniduo/http/httpmsg.cpp") longLine,
      ¬RecordOk .TRACE .TRACE (some text) := by
  refine ⟨_, List.mem_cons_self, not_recordOk_of_long (Nat.lt_irrefl _) ?_⟩
  have hstring : cString longLine = longLine := by
    rw [cString, longLine, List.takeWhile_replicate]
    rfl
  rw [length_requestline, hstring, longLine, List.length_replicate]
  omega

end HttpRequest
end Miniduo
