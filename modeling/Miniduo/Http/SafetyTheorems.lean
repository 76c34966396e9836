import Miniduo.Http.DecodeTheorems

/-!
# Exceptions of the decoder

Nothing between `tryDecode` and the event loop catches an exception. The only calls on its path
that throw are `string::substr` and `std::stoi` in `parseHeaders`, so a call returns a code iff
every header line that it reads meets their preconditions (`tryDecode_answers_iff`).
-/

namespace Miniduo
namespace HttpRequest

/-! ## What a call reads -/

/-- The lines in front of the first blank one. -/
def untilBlank (lines : List Bytes) : List Bytes := lines.takeWhile (· ≠ [])

/-- The header lines that a call reads when none of them throws. -/
def headerLinesRead (req : HttpRequest) (buf : Bytes) : List Bytes :=
  match req.checkstate_, (Separator.splitLines CR LF buf).1 with
  | .expectHeader, lines => untilBlank lines
  | .expectRequestline, line :: lines => if RequestLineOk line then untilBlank lines else []
  | _, _ => []

/-- A header line is refused, or all lines are read and the unfinished one behind them holds a line
feed. -/
def MalformedHeaders (lines : List Bytes) (tail : Bytes) : Prop :=
  (∃ line ∈ untilBlank lines, ¬HeaderLineOk line) ∨ ((∀ line ∈ lines, line ≠ []) ∧ LF ∈ tail)

/-- The decoder meets a request line or a header line that it cannot accept, or it comes to the
unfinished line at the end of the buffer and finds a line feed in it, which is `LINE_BAD`. A line
feed inside a line that a `\r\n` ends does not count: `parseLine` finds such a line complete. -/
def Malformed (req : HttpRequest) (buf : Bytes) : Prop :=
  match req.checkstate_, (Separator.splitLines CR LF buf).1 with
  | .expectHeader, lines => MalformedHeaders lines (Separator.splitLines CR LF buf).2
  | .expectRequestline, [] => LF ∈ buf
  | .expectRequestline, line :: lines =>
    ¬RequestLineOk line ∨ MalformedHeaders lines (Separator.splitLines CR LF buf).2
  | _, _ => False

/-! ## Lines that are refused -/

lemma headerLine_throws (req : HttpRequest) {line : Bytes} (hne : line ≠ [])
    (h : ¬HeaderLineOk line) : ∃ e, (headerLine req line).1 = .error e := by
  cases hresult : (headerLine req line).1 with
  | error e => exact ⟨e, rfl⟩
  | ok code =>
    exfalso
    rcases headerLine_code hresult with rfl | rfl
    · exact h ((headerLine_accepts hne).mp hresult)
    · -- only the blank line completes a request
      rw [headerLine, if_neg hne] at hresult
      split at hresult
      · cases hresult
      · split at hresult
        · simp only at hresult
          split at hresult
          · split at hresult <;> cases hresult
          · cases hresult
        · cases hresult

lemma headerLine_nil (req : HttpRequest) :
    ∃ code, (headerLine req []).1 = .ok code ∧
      (code = .noRequest → (headerLine req []).2.checkstate_ = .expectContent) := by
  rw [headerLine, if_pos rfl]
  split
  · exact ⟨.noRequest, rfl, fun _ => rfl⟩
  · refine ⟨.getRequest, rfl, fun h => ?_⟩
    cases h

lemma tryDecode_content_ok {req : HttpRequest} (buf : Bytes)
    (hstate : req.checkstate_ = .expectContent) :
    ∃ code, (tryDecode req buf).result = .ok code := by
  rw [tryDecode_content hstate]
  split
  · exact ⟨.noRequest, rfl⟩
  · exact ⟨.getRequest, rfl⟩

section
variable {line : Bytes} {lines : List Bytes} {tail : Bytes}

@[simp] lemma untilBlank_nil : untilBlank [] = [] := rfl

@[simp] lemma untilBlank_blank : untilBlank ([] :: lines) = [] := rfl

lemma untilBlank_cons (hne : line ≠ []) : untilBlank (line :: lines) = line :: untilBlank lines :=
  List.takeWhile_cons_of_pos (by simpa using hne)

@[simp] lemma malformedHeaders_nil : MalformedHeaders [] tail ↔ LF ∈ tail := by
  simp [MalformedHeaders]

@[simp] lemma malformedHeaders_blank : ¬MalformedHeaders ([] :: lines) tail := by
  simp [MalformedHeaders]

lemma malformedHeaders_cons (hne : line ≠ []) (hok : HeaderLineOk line) :
    MalformedHeaders (line :: lines) tail ↔ MalformedHeaders lines tail := by
  simp [MalformedHeaders, untilBlank_cons hne, hne, hok]

end

/-! ## The head -/

/-- In the head, a call answers, and answers malformed headers with `BAD_REQUEST`, iff no header
line that it reads is refused. -/
lemma tryDecode_header_iff (req : HttpRequest) (buf : Bytes)
    (hstate : req.checkstate_ = .expectHeader) :
    (∃ code, (tryDecode req buf).result = .ok code ∧
        (MalformedHeaders (Separator.splitLines CR LF buf).1 (Separator.splitLines CR LF buf).2 →
          code = .badRequest)) ↔
      ∀ line ∈ untilBlank (Separator.splitLines CR LF buf).1, HeaderLineOk line := by
  have hreads : req.ReadsLines := Or.inr hstate
  have hread : ∀ l, readLine req l = headerLine req l := fun l => by simp [readLine, hstate]
  induction hn : buf.length using Nat.strong_induction_on generalizing req buf with
  | _ n ih =>
    subst hn
    cases hi : findCRLF buf with
    | none =>
      rw [tryDecode_noLine hreads hi, Separator.splitLines_none hi]
      simp only [untilBlank_nil, List.not_mem_nil, false_imp_iff, implies_true, iff_true,
        malformedHeaders_nil, Except.ok.injEq]
      refine ⟨_, rfl, fun hlf => ?_⟩
      rw [if_pos hlf]
    | some i =>
      have hlen := Separator.findPair_le hi
      rw [tryDecode_line hreads hi, Separator.splitLines_some hi, hread]
      simp only
      by_cases hnil : buf.take i = []
      · -- the blank line: the call completes the request or goes on with the body
        rw [hnil]
        obtain ⟨code, hcode, hbody⟩ := headerLine_nil req
        simp only [untilBlank_blank, malformedHeaders_blank, List.not_mem_nil, false_imp_iff,
          implies_true, iff_true, and_true]
        split
        · rename_i hgo
          rw [hgo, Except.ok.injEq] at hcode
          exact tryDecode_content_ok _ (hbody hcode.symm)
        · exact ⟨code, hcode⟩
      · rw [untilBlank_cons hnil]
        by_cases hok : HeaderLineOk (buf.take i)
        · have hnext : (headerLine req (buf.take i)).2.checkstate_ = .expectHeader := by
            rw [headerLine_state hnil, hstate]
          have hshort : (buf.drop (i + 2)).length < buf.length := by
            rw [List.length_drop]; omega
          rw [if_pos ((headerLine_accepts hnil).mpr hok)]
          simp only [malformedHeaders_cons hnil hok, List.forall_mem_cons, hok, true_and]
          exact ih _ hshort _ _ hnext (Or.inr hnext) (fun l => by simp [readLine, hnext]) rfl
        · -- the call ends with the exception of this line
          obtain ⟨e, he⟩ := headerLine_throws req hnil hok
          rw [if_neg (by rw [he]; simp)]
          simp only [he, reduceCtorEq, false_and, exists_false, List.forall_mem_cons, hok]

/-- **The decoder answers** with a code, and malformed input with `BAD_REQUEST`, iff every header
line that it reads has a byte behind its `:` and, in the field `Content-length`, a number that
fits an `int`. -/
theorem tryDecode_answers_iff (req : HttpRequest) (buf : Bytes) :
    (∃ code, (tryDecode req buf).result = .ok code ∧
        (Malformed req buf → code = .badRequest)) ↔
      ∀ line ∈ headerLinesRead req buf, HeaderLineOk line := by
  unfold Malformed headerLinesRead
  cases hstate : req.checkstate_ with
  | getAll =>
    simp only [tryDecode_getAll hstate, List.not_mem_nil, false_imp_iff, implies_true, iff_true,
      and_true]
    exact ⟨_, rfl⟩
  | expectContent =>
    simp only [List.not_mem_nil, false_imp_iff, implies_true, iff_true, and_true]
    exact tryDecode_content_ok buf hstate
  | expectHeader => exact tryDecode_header_iff req buf hstate
  | expectRequestline =>
    have hreads : req.ReadsLines := Or.inl hstate
    cases hi : findCRLF buf with
    | none =>
      rw [tryDecode_noLine hreads hi, Separator.splitLines_none hi]
      simp only [List.not_mem_nil, false_imp_iff, implies_true, iff_true, Except.ok.injEq]
      refine ⟨_, rfl, fun hlf => ?_⟩
      rw [if_pos hlf]
    | some i =>
      -- the request line never faults, so what follows it decides
      have hread : readLine req (buf.take i) =
          (.ok (requestLine req (buf.take i)).1, (requestLine req (buf.take i)).2) := by
        rw [readLine, if_pos hstate]
      rw [tryDecode_line hreads hi, Separator.splitLines_some hi, hread]
      simp only [Except.ok.injEq, requestLine_accepts]
      by_cases hok : RequestLineOk (buf.take i)
      · simp only [hok, if_true, not_true_eq_false, false_or]
        exact tryDecode_header_iff _ _ (requestLine_state hok)
      · simp only [hok, if_false, not_false_eq_true, true_or, List.not_mem_nil, false_imp_iff,
          implies_true, iff_true, Except.ok.injEq, true_imp_iff]
        refine ⟨_, rfl, ?_⟩
        rcases requestLine_code req (buf.take i) with hcode | hcode
        · exact absurd (requestLine_accepts.mp hcode) hok
        · exact hcode

/-- A header line that ends at its `:` is an exception of `string::substr`. -/
theorem tryDecode_throws :
    ¬∀ (req : HttpRequest) (buf : Bytes), ∃ code, (tryDecode req.clear buf).result = .ok code ∧
      (Malformed req.clear buf → code = .badRequest) := by
  intro h
  obtain ⟨code, hcode, -⟩ := h {} (lit "GET / HTTP/1.1\r\na:\r\n")
  have hthrow : (tryDecode (clear {}) (lit "GET / HTTP/1.1\r\na:\r\n")).result
      = .error .outOfRange := by decide
  rw [hthrow] at hcode
  cases hcode

/-! ## The exceptions -/

lemma stoi_fault {s : Bytes} {e : Fault} (h : stoi s = .error e) :
    e = .outOfRange ∨ e = .invalidArgument := by
  unfold stoi at h
  simp only at h
  by_cases hdigits : (readSign (s.dropWhile isspace)).2.takeWhile isdigit = []
  · rw [if_pos hdigits, Except.error.injEq] at h
    exact Or.inr h.symm
  · rw [if_neg hdigits] at h
    generalize (if (readSign (s.dropWhile isspace)).1 = true then _ else _ : ℤ) = value at h
    by_cases hrange : value < -2 ^ 31 ∨ 2 ^ 31 ≤ value
    · rw [if_pos hrange, Except.error.injEq] at h
      exact Or.inl h.symm
    · rw [if_neg hrange] at h
      cases h

lemma headerLine_fault {req : HttpRequest} {line : Bytes} {e : Fault}
    (h : (headerLine req line).1 = .error e) : e = .outOfRange ∨ e = .invalidArgument := by
  unfold headerLine at h
  split at h
  · split at h <;> cases h
  · split at h
    · cases h
    · rename_i idx _
      -- `substr` throws behind the end of the line, `stoi` on the value
      by_cases hle : idx + 2 ≤ line.length
      · simp only [if_pos hle] at h
        split at h
        · cases hvalue : stoi (line.drop (idx + 2)) with
          | ok n => simp [hvalue] at h
          | error e' =>
            simp only [hvalue, Except.error.injEq] at h
            exact h ▸ stoi_fault hvalue
        · cases h
      · simp only [if_neg hle, Except.error.injEq] at h
        exact Or.inl h.symm

/-- A call never fails an assertion, reads outside the buffer or loops: the exceptions of
`string::substr` and `std::stoi` are the only ways in which it does not return. -/
theorem tryDecode_fault (req : HttpRequest) (buf : Bytes) {e : Fault}
    (h : (tryDecode req buf).result = .error e) : e = .outOfRange ∨ e = .invalidArgument := by
  induction req, buf using decode_induction with
  | getAll req buf hstate => rw [tryDecode_getAll hstate] at h; cases h
  | content req buf hstate =>
    obtain ⟨code, hcode⟩ := tryDecode_content_ok buf hstate
    rw [hcode] at h
    cases h
  | noLine req buf hreads hi => rw [tryDecode_noLine hreads hi] at h; cases h
  | stop req buf i hreads hi hstop =>
    rw [tryDecode_line hreads hi, if_neg hstop] at h
    simp only [readLine] at h
    split at h
    · cases h
    · exact headerLine_fault h
  | line req buf i hreads hi hgo ih =>
    rw [tryDecode_line hreads hi, if_pos hgo] at h
    exact ih h

end HttpRequest
end Miniduo
