import Miniduo.Http.ProgressTheorems

/-!
# Where the body of a request ends

A request that announces its body in one header field, whatever the case of its name and however
many spaces in front of the number. The decoder finds the end of the body iff the name is spelled
`Content-length`, one byte may be dropped behind the `:` without changing the number, and no other
header line ends at its `:`.
-/

namespace Miniduo
namespace HttpRequest

/-- `tolower`, of an ASCII character. -/
def lower (c : Byte) : Byte := if 65 ≤ c && c ≤ 90 then c + 32 else c

/-- A header field other than `content-length`, under any spelling. -/
def OtherField (line : Bytes) : Prop :=
  ∃ name value, line = name ++ 58 :: value ∧ 58 ∉ name ∧ CR ∉ line ∧ LF ∉ line ∧
    name.map lower ≠ lit "content-length"

/-- A request with a body, and what makes it well formed as fields. -/
structure LengthRequest where
  requestline : Bytes
  /-- The header lines in front of the announced length and behind it. -/
  before : List Bytes
  after : List Bytes
  name : Bytes
  spaces : ℕ
  digits : Bytes
  content : Bytes
  requestline_ok : RequestLineOk requestline
  requestline_chars : CR ∉ requestline ∧ LF ∉ requestline
  others : ∀ line ∈ before ++ after, OtherField line
  name_spelled : name.map lower = lit "content-length"
  digits_ok : ∀ c ∈ digits, isdigit c = true
  announced : decimalValue digits = content.length
  content_ne : content ≠ []
  content_lt : content.length < 2 ^ 31

/-- Lines, each with its CRLF. -/
def wireLines (lines : List Bytes) : Bytes := lines.flatMap (· ++ [CR, LF])

namespace LengthRequest

/-- The field that announces the length: name, `:`, spaces, number. -/
def lengthLine (msg : LengthRequest) : Bytes :=
  msg.name ++ 58 :: (List.replicate msg.spaces 32 ++ msg.digits)

def headerLines (msg : LengthRequest) : List Bytes := msg.before ++ msg.lengthLine :: msg.after

/-- Everything in front of the body. -/
def head (msg : LengthRequest) : Bytes :=
  msg.requestline ++ [CR, LF] ++ (wireLines msg.headerLines ++ [CR, LF])

/-- However the bytes arrive, the request is not complete before the last byte of the body is
there; then its content is the body, and what follows the body is left unread. -/
structure Framed (msg : LengthRequest) : Prop where
  early : ∀ (req : HttpRequest) (chunks : List Bytes), chunks.flatten <+: msg.head ++ msg.content →
    chunks.flatten ≠ msg.head ++ msg.content → (feed req.clear [] chunks).result ≠ .ok .getRequest
  complete : ∀ (req : HttpRequest) (chunks : List Bytes) (rest : Bytes),
    chunks.flatten = msg.head ++ msg.content ++ rest →
      (feed req.clear [] chunks).result = .ok .getRequest ∧
        (feed req.clear [] chunks).req.content_ = msg.content ∧
        (feed req.clear [] chunks).buf = rest

/-- What `parseHeaders` understands: its own spelling of the name, a number that the two bytes
skipped from the `:` on leave as it is, and other header lines with a byte behind their `:`. -/
structure Understood (msg : LengthRequest) : Prop where
  name : msg.name = lit "Content-length"
  value : 0 < msg.spaces ∨ msg.digits.head? = some 48
  others : ∀ line ∈ msg.before ++ msg.after, HeaderLineOk line

end LengthRequest

/-! ## Header lines one after the other -/

/-- What accepted header lines leave. -/
def putLines (req : HttpRequest) (lines : List Bytes) : HttpRequest :=
  lines.foldl (fun req line => (headerLine req line).2) req

section
variable {req : HttpRequest} {lines : List Bytes}

/-- In the header state a line is a header line. -/
lemma readLine_header (hstate : req.checkstate_ = .expectHeader) (line : Bytes) :
    readLine req line = headerLine req line := by
  rw [readLine, if_neg (by rw [hstate]; simp)]

/-- The first line of the buffer is the first of the lines written there. -/
lemma findCRLF_wireLine {line : Bytes} (hline : CR ∉ line) (tail : Bytes) :
    findCRLF (line ++ CR :: LF :: tail) = some line.length :=
  Separator.findPair_of_notMem hline tail

/-- What is left behind a line and its CRLF. -/
lemma drop_wireLine (line tail : Bytes) :
    (line ++ CR :: LF :: tail).drop (line.length + 2) = tail := by
  rw [List.drop_append, List.drop_eq_nil_of_le (by omega), Nat.add_sub_cancel_left]
  rfl

/-- The first line, its CRLF, and the others. -/
lemma wireLines_cons (line : Bytes) (lines : List Bytes) (tail : Bytes) :
    wireLines (line :: lines) ++ tail = line ++ CR :: LF :: (wireLines lines ++ tail) := by
  rw [wireLines, List.flatMap_cons, ← wireLines]
  simp only [List.append_assoc, List.cons_append, List.nil_append]

/-- Header lines that are not blank leave the header state. -/
lemma putLines_state (hlines : ∀ line ∈ lines, line ≠ []) :
    ∀ {req : HttpRequest}, (putLines req lines).checkstate_ = req.checkstate_ := by
  induction lines with
  | nil => exact rfl
  | cons line lines ih =>
    intro req
    obtain ⟨hne, hlines⟩ := List.forall_mem_cons.mp hlines
    exact (ih hlines).trans (headerLine_state hne)

/-- Accepted header lines are read. -/
lemma reads_wireLines (hlines : ∀ line ∈ lines, line ≠ [] ∧ CR ∉ line)
    (hok : ∀ line ∈ lines, HeaderLineOk line) (tail : Bytes) :
    ∀ {req : HttpRequest}, req.checkstate_ = .expectHeader →
      Reads req (wireLines lines ++ tail) (putLines req lines) tail := by
  induction lines with
  | nil => intro req _; exact .refl _ _
  | cons line lines ih =>
    intro req hstate
    obtain ⟨⟨hne, hcr⟩, hlines⟩ := List.forall_mem_cons.mp hlines
    obtain ⟨hfirst, hok⟩ := List.forall_mem_cons.mp hok
    have hgo : (headerLine req line).1 = .ok .noRequest := (headerLine_accepts hne).mpr hfirst
    have hnext : (headerLine req line).2.checkstate_ = .expectHeader := by
      rw [headerLine_state hne, hstate]
    rw [wireLines_cons]
    refine .line (Or.inr hstate) (findCRLF_wireLine hcr _) ?_ ?_
    · rw [List.take_left, readLine_header hstate]
      exact hgo
    · rw [List.take_left, readLine_header hstate, drop_wireLine]
      exact ih hlines hok hnext

/-- A call that answers has accepted every header line in front of the blank one. -/
lemma accepted_of_answer (hlines : ∀ line ∈ lines, line ≠ [] ∧ CR ∉ line) {tail : Bytes}
    {code : HttpCode} :
    ∀ {req : HttpRequest}, req.checkstate_ = .expectHeader →
      (tryDecode req (wireLines lines ++ tail)).result = .ok code →
      ∀ line ∈ lines, HeaderLineOk line := by
  induction lines with
  | nil => exact fun _ _ _ => nofun
  | cons line lines ih =>
    intro req hstate hresult
    obtain ⟨⟨hne, hcr⟩, hlines⟩ := List.forall_mem_cons.mp hlines
    rw [wireLines_cons, tryDecode_line (Or.inr hstate) (findCRLF_wireLine hcr _), List.take_left,
      readLine_header hstate, drop_wireLine] at hresult
    by_cases hok : HeaderLineOk line
    · rw [if_pos ((headerLine_accepts hne).mpr hok)] at hresult
      refine List.forall_mem_cons.mpr ⟨hok, ih hlines ?_ hresult⟩
      rw [headerLine_state hne, hstate]
    · -- a refused line ends the call with an exception
      obtain ⟨e, he⟩ := headerLine_throws req hne hok
      rw [if_neg (by rw [he]; simp)] at hresult
      rw [he] at hresult
      cases hresult

end

/-! ## The announced length -/

/-- The body length that the request has been told, and whether it has been told one. -/
def Announces (req : HttpRequest) (length : ℤ) (told : Prop) : Prop :=
  req.contentLength_ = length ∧ (lit "Content-length" ∈ req.headers_ ↔ told)

/-- The spelling that the code compares with is one of the field name. -/
lemma lower_spelling : (lit "Content-length").map lower = lit "content-length" := by decide

/-- Another field announces nothing. -/
lemma OtherField.announces {line : Bytes} (h : OtherField line) {req : HttpRequest} {length : ℤ}
    {told : Prop} (hreq : req.Announces length told) :
    (headerLine req line).2.Announces length told := by
  obtain ⟨name, value, rfl, hcolon, -, -, hname⟩ := h
  have hne : name ++ 58 :: value ≠ [] := by simp
  have hname' : name ≠ lit "Content-length" := by
    rintro rfl
    exact hname lower_spelling
  rw [headerLine, if_neg hne, idxOf?_of_notMem hcolon]
  simp only [List.take_left, if_neg hname']
  split
  · refine ⟨hreq.1, ?_⟩
    rw [Finmap.mem_insert, or_iff_right (Ne.symm hname')]
    exact hreq.2
  · exact hreq

/-- Other fields announce nothing. -/
lemma putLines_announces {lines : List Bytes} (hlines : ∀ line ∈ lines, OtherField line)
    {length : ℤ} {told : Prop} :
    ∀ {req : HttpRequest}, req.Announces length told →
      (putLines req lines).Announces length told := by
  induction lines with
  | nil => exact fun h => h
  | cons line lines ih =>
    intro req hreq
    obtain ⟨hline, hlines⟩ := List.forall_mem_cons.mp hlines
    exact ih hlines (hline.announces hreq)

/-- A field is a line, and not a blank one. -/
lemma OtherField.line {line : Bytes} (h : OtherField line) :
    line ≠ [] ∧ CR ∉ line ∧ LF ∉ line := by
  obtain ⟨name, value, rfl, -, hcr, hlf, -⟩ := h
  exact ⟨by simp, hcr, hlf⟩

/-- `std::stoi` skips spaces. -/
lemma stoi_spaces (n : ℕ) (s : Bytes) : stoi (List.replicate n 32 ++ s) = stoi s := by
  have hdrop : (List.replicate n 32 ++ s).dropWhile isspace = s.dropWhile isspace := by
    refine List.dropWhile_append_of_pos fun c hc => ?_
    rw [List.eq_of_mem_replicate hc]
    rfl
  simp only [stoi, hdrop]

/-- The value of a number's first digit. -/
lemma decimalValue_cons (c : Byte) (s : Bytes) :
    decimalValue (c :: s) = (c.toNat - 48) * 10 ^ s.length + decimalValue s := by
  induction s using List.reverseRecOn with
  | nil => simp [decimalValue]
  | append_singleton s d ih =>
    rw [← List.cons_append, decimalValue_append, decimalValue_append, List.foldl_cons,
      List.foldl_nil, List.foldl_cons, List.foldl_nil, ih, List.length_append]
    simp only [List.length_singleton, pow_succ]
    ring

namespace LengthRequest

variable (msg : LengthRequest)

/-- The number has a digit. -/
lemma digits_cons : ∃ c s, msg.digits = c :: s := by
  refine List.exists_cons_of_ne_nil fun hnil => msg.content_ne ?_
  have hlen := msg.announced
  rw [hnil] at hlen
  exact List.length_eq_zero_iff.mp hlen.symm

/-- What `parseHeaders` takes for the value of the length field. -/
def value : Bytes := (List.replicate msg.spaces 32 ++ msg.digits).drop 1

/-- `stoi` reads the length from what `parseHeaders` takes iff the byte it drops is a space or a
leading zero. -/
lemma stoi_value_iff : stoi msg.value = .ok msg.content.length ↔
    0 < msg.spaces ∨ msg.digits.head? = some 48 := by
  have hlt : decimalValue msg.digits < 2 ^ 31 := msg.announced ▸ msg.content_lt
  have hpos : 0 < msg.content.length := List.length_pos_iff.mpr msg.content_ne
  obtain ⟨c, s, hcons⟩ := msg.digits_cons
  have hs : ∀ d ∈ s, isdigit d = true :=
    fun d hd => msg.digits_ok d (hcons ▸ List.mem_cons_of_mem c hd)
  have hvalue := decimalValue_cons c s
  have hannounced := msg.announced
  rw [hcons, hvalue] at hannounced hlt
  cases hspaces : msg.spaces with
  | succ n =>
    -- the byte skipped is a space
    have hread : stoi msg.value = .ok (decimalValue msg.digits) := by
      rw [value, hspaces, List.replicate_succ, List.cons_append, List.drop_one, List.tail_cons,
        stoi_spaces]
      exact stoi_digits (by rw [hcons]; simp) msg.digits_ok (by rw [hcons, hvalue]; exact hlt)
    rw [hread, msg.announced]
    simp
  | zero =>
    -- the byte skipped is the first digit
    have htail : msg.value = s := by
      rw [value, hspaces, hcons]
      rfl
    have hc := msg.digits_ok c (hcons ▸ List.mem_cons_self)
    have h48 : (48 : UInt8).toNat = 48 := rfl
    simp only [isdigit, Bool.and_eq_true, decide_eq_true_eq, UInt8.le_iff_toNat_le, h48] at hc
    rw [htail, hcons, List.head?_cons, Option.some.injEq, or_iff_right (lt_irrefl 0)]
    constructor
    · intro hread
      have hne : s ≠ [] := by
        rintro rfl
        cases hread
      rw [stoi_digits hne hs (by omega), Except.ok.injEq, Nat.cast_inj] at hread
      -- so the first digit counts nothing
      have hzero : (c.toNat - 48) * 10 ^ s.length = 0 := by omega
      rcases Nat.mul_eq_zero.mp hzero with hzero | hzero
      · exact UInt8.toNat_inj.mp (by omega)
      · exact absurd hzero (by positivity)
    · rintro rfl
      rw [h48, Nat.sub_self, Nat.zero_mul, Nat.zero_add] at hannounced
      have hne : s ≠ [] := by
        rintro rfl
        rw [← hannounced] at hpos
        cases hpos
      rw [stoi_digits hne hs (by omega), hannounced]

/-- The bytes of the name are those of `content-length`, up to their case. -/
lemma name_chars : ∀ c ∈ msg.name, c ≠ 58 ∧ c ≠ CR ∧ c ≠ LF := by
  intro c hc
  have hmem : lower c ∈ lit "content-length" := by
    rw [← msg.name_spelled]
    exact List.mem_map_of_mem hc
  refine ⟨?_, ?_, ?_⟩ <;>
  · rintro rfl
    exact absurd hmem (by decide)

/-- What stands behind the `:` ends no line. -/
lemma rest_chars : ∀ c ∈ List.replicate msg.spaces 32 ++ msg.digits, c ≠ CR ∧ c ≠ LF := by
  intro c hc
  rcases List.mem_append.mp hc with hc | hc
  · rw [List.eq_of_mem_replicate hc]
    decide
  · have hdigit := msg.digits_ok c hc
    constructor <;>
    · rintro rfl
      exact absurd hdigit (by decide)

/-- The length field is a line, and not a blank one. -/
lemma lengthLine_line : msg.lengthLine ≠ [] ∧ CR ∉ msg.lengthLine ∧ LF ∉ msg.lengthLine := by
  refine ⟨by simp [lengthLine], ?_, ?_⟩
  · intro h
    rcases List.mem_append.mp h with h | h
    · exact (msg.name_chars CR h).2.1 rfl
    · rcases List.mem_cons.mp h with h | h
      · exact absurd h (by decide)
      · exact (msg.rest_chars CR h).1 rfl
  · intro h
    rcases List.mem_append.mp h with h | h
    · exact (msg.name_chars LF h).2.2 rfl
    · rcases List.mem_cons.mp h with h | h
      · exact absurd h (by decide)
      · exact (msg.rest_chars LF h).2 rfl

/-- The name and the value in the length field. -/
lemma lengthLine_split :
    msg.lengthLine.idxOf? 58 = some msg.name.length ∧
      msg.name.length + 2 ≤ msg.lengthLine.length ∧
      msg.lengthLine.take msg.name.length = msg.name ∧
      msg.lengthLine.drop (msg.name.length + 2) = msg.value := by
  obtain ⟨c, s, hcons⟩ := msg.digits_cons
  refine ⟨idxOf?_of_notMem (fun h => (msg.name_chars 58 h).1 rfl) _, ?_, List.take_left, ?_⟩
  · rw [lengthLine, hcons]
    simp only [List.length_append, List.length_cons]
    omega
  · rw [lengthLine, value, List.drop_append, List.drop_eq_nil_of_le (by omega),
      Nat.add_sub_cancel_left]
    rfl

/-- `parseHeaders` processes the length field unless it spells the name as the code does and `stoi`
throws. -/
lemma lengthLine_ok_iff : HeaderLineOk msg.lengthLine ↔
    (msg.name = lit "Content-length" → (stoi msg.value).isOk = true) := by
  obtain ⟨hidx, hle, htake, hdrop⟩ := msg.lengthLine_split
  simp only [HeaderLineOk, hidx, htake, hdrop, hle, true_and]

/-- The length field is understood when it is spelled as the decoder spells it. -/
lemma lengthLine_announces {req : HttpRequest} (hreq : req.Announces 0 False) :
    (msg.name ≠ lit "Content-length" → (headerLine req msg.lengthLine).2.Announces 0 False) ∧
      (msg.name = lit "Content-length" → ∀ n, stoi msg.value = .ok n →
        (headerLine req msg.lengthLine).2.Announces n True) := by
  obtain ⟨hidx, hle, htake, hdrop⟩ := msg.lengthLine_split
  rw [headerLine, if_neg msg.lengthLine_line.1, hidx]
  simp only [if_pos hle, htake, hdrop]
  constructor
  · intro hname
    rw [if_neg hname]
    refine ⟨hreq.1, ?_⟩
    rw [Finmap.mem_insert, or_iff_right (Ne.symm hname)]
    exact hreq.2
  · intro hname n hn
    rw [if_pos hname, hn]
    exact ⟨rfl, by simp [Finmap.mem_insert, hname]⟩

end LengthRequest

/-! ## The head of the request -/

/-- The blank line: the body follows if one has been announced, else the request is complete. -/
lemma tryDecode_blankLine {req : HttpRequest} (hstate : req.checkstate_ = .expectHeader)
    (body : Bytes) :
    tryDecode req (CR :: LF :: body) =
      if lit "Content-length" ∈ req.headers_ ∧ req.contentLength_ > 0 then
        tryDecode { req with checkstate_ := .expectContent } body
      else ⟨.ok .getRequest, { req with checkstate_ := .getAll }, body⟩ := by
  have hi : findCRLF (CR :: LF :: body) = some 0 := Separator.findPair_pos
  have hbehind : (CR :: LF :: body).drop (0 + 2) = body := rfl
  rw [tryDecode_line (Or.inr hstate) hi, List.take_zero, readLine_header hstate, headerLine,
    if_pos rfl, hbehind]
  by_cases hbody : lit "Content-length" ∈ req.headers_ ∧ req.contentLength_ > 0
  · rw [if_pos hbody, if_pos hbody, if_pos rfl]
  · rw [if_neg hbody, if_neg hbody, if_neg (by simp)]

/-- The beginning of a line and of what follows it: the line is not ended yet, or it is all
there. -/
lemma prefix_wireLine {fed line tail : Bytes} (hlf : LF ∉ line)
    (h : fed <+: line ++ CR :: LF :: tail) :
    (findCRLF fed = none ∧ LF ∉ fed) ∨ ∃ fed', fed = line ++ CR :: LF :: fed' ∧ fed' <+: tail := by
  have hsplit : line ++ CR :: LF :: tail = (line ++ [CR]) ++ LF :: tail := by simp
  rw [hsplit] at h
  rcases List.prefix_or_prefix_of_prefix h (List.prefix_append (line ++ [CR]) (LF :: tail)) with
    hshort | ⟨fed', rfl⟩
  · left
    have hno : LF ∉ fed := by
      intro hmem
      rcases List.mem_append.mp (hshort.subset hmem) with hmem | hmem
      · exact hlf hmem
      · exact absurd hmem (by decide)
    exact ⟨Separator.findPair_none_of_notMem hno, hno⟩
  · -- everything up to the carriage return is there
    have hrest : fed' <+: LF :: tail := (List.prefix_append_right_inj _).mp h
    cases fed' with
    | nil =>
      left
      have hno : LF ∉ line ++ [CR] ++ [] := by
        rw [List.append_nil, List.mem_append, not_or]
        exact ⟨hlf, by decide⟩
      exact ⟨Separator.findPair_none_of_notMem hno, hno⟩
    | cons c fed' =>
      obtain ⟨rfl, htail⟩ := List.cons_prefix_cons.mp hrest
      exact Or.inr ⟨fed', by simp, htail⟩

/-- Inside header lines, a blank line and an announced body, no line feed stands bare. -/
lemma not_bareLF_wireLines {lines : List Bytes}
    (hlines : ∀ line ∈ lines, line ≠ [] ∧ CR ∉ line ∧ LF ∉ line)
    (hok : ∀ line ∈ lines, HeaderLineOk line) {body fed : Bytes} :
    ∀ {req : HttpRequest}, req.checkstate_ = .expectHeader →
      (lit "Content-length" ∈ (putLines req lines).headers_ ∧
        (putLines req lines).contentLength_ > 0) →
      fed <+: wireLines lines ++ CR :: LF :: body → ∀ r tail, ¬BareLF req fed r tail := by
  induction lines generalizing fed with
  | nil =>
    intro req hstate hbody hfed r tail hb
    have hblank : LF ∉ ([] : Bytes) := List.not_mem_nil
    rcases prefix_wireLine hblank hfed with ⟨hnone, hno⟩ | ⟨fed', rfl, -⟩
    · exact hno ((bareLF_of_none (Or.inr hstate) hnone).mp hb).2.2
    · -- behind the blank line no lines are read
      have hi : findCRLF ([] ++ CR :: LF :: fed') = some 0 := Separator.findPair_pos
      have hbody : lit "Content-length" ∈ req.headers_ ∧ req.contentLength_ > 0 := hbody
      have hnext := ((bareLF_of_some (Or.inr hstate) hi).mp hb).2
      rw [List.take_zero, readLine_header hstate, headerLine, if_pos rfl, if_pos hbody] at hnext
      cases hnext.reads with
      | refl => exact absurd hnext.state (by simp [ReadsLines])
      | line hreads => exact absurd hreads (by simp [ReadsLines])
  | cons line lines ih =>
    intro req hstate hbody hfed r tail hb
    obtain ⟨⟨hne, hcr, hlf⟩, hlines⟩ := List.forall_mem_cons.mp hlines
    obtain ⟨-, hok⟩ := List.forall_mem_cons.mp hok
    rw [wireLines_cons] at hfed
    rcases prefix_wireLine hlf hfed with ⟨hnone, hno⟩ | ⟨fed', rfl, hfed'⟩
    · exact hno ((bareLF_of_none (Or.inr hstate) hnone).mp hb).2.2
    · have hnext := ((bareLF_of_some (Or.inr hstate) (findCRLF_wireLine hcr _)).mp hb).2
      rw [List.take_left, drop_wireLine, readLine_header hstate] at hnext
      refine ih hlines hok ?_ hbody hfed' r tail hnext
      rw [headerLine_state hne, hstate]

namespace LengthRequest

variable (msg : LengthRequest)

/-- The request line comes first on the wire, then the header lines and the blank one. -/
lemma head_append (tail : Bytes) :
    msg.head ++ tail =
      msg.requestline ++ CR :: LF :: (wireLines msg.headerLines ++ CR :: LF :: tail) := by
  simp only [head, List.append_assoc, List.cons_append, List.nil_append]

/-- What the request line leaves. -/
def afterRequestline (req : HttpRequest) : HttpRequest := (requestLine req.clear msg.requestline).2

/-- Header lines follow the request line. -/
lemma afterRequestline_state (req : HttpRequest) :
    (msg.afterRequestline req).checkstate_ = .expectHeader :=
  requestLine_state msg.requestline_ok

/-- The request line announces no length. -/
lemma afterRequestline_announces (req : HttpRequest) :
    (msg.afterRequestline req).Announces 0 False := by
  obtain ⟨hlength, hheaders, -⟩ := requestLine_frame req.clear msg.requestline
  refine ⟨hlength, ?_⟩
  rw [afterRequestline, hheaders, iff_false]
  exact Finmap.notMem_empty

/-- The request line is accepted. -/
lemma readLine_requestline (req : HttpRequest) :
    readLine req.clear msg.requestline = (.ok .noRequest, msg.afterRequestline req) := by
  have hcode : (requestLine req.clear msg.requestline).1 = .noRequest :=
    requestLine_accepts.mpr msg.requestline_ok
  have hstate : req.clear.checkstate_ = .expectRequestline := rfl
  rw [readLine, if_pos hstate, hcode]
  rfl

/-- The head is read up to the blank line when its header lines are accepted. -/
lemma tryDecode_head (req : HttpRequest) (tail : Bytes) :
    tryDecode req.clear (msg.head ++ tail) =
      tryDecode (msg.afterRequestline req) (wireLines msg.headerLines ++ CR :: LF :: tail) := by
  rw [head_append, tryDecode_line (Or.inl rfl) (findCRLF_wireLine msg.requestline_chars.1 _),
    List.take_left, readLine_requestline, if_pos rfl, drop_wireLine]

/-- All header lines are lines, and none of them is blank. -/
lemma headerLines_line :
    ∀ line ∈ msg.headerLines, line ≠ [] ∧ CR ∉ line ∧ LF ∉ line := by
  intro line hline
  rcases List.mem_append.mp hline with hline | hline
  · exact (msg.others line (List.mem_append_left _ hline)).line
  · rcases List.mem_cons.mp hline with rfl | hline
    · exact msg.lengthLine_line
    · exact (msg.others line (List.mem_append_right _ hline)).line

/-- Header lines that are accepted lead to the blank line. -/
lemma tryDecode_headerLines (hok : ∀ line ∈ msg.headerLines, HeaderLineOk line)
    (req : HttpRequest) (body : Bytes) :
    tryDecode req.clear (msg.head ++ body) =
      if lit "Content-length" ∈ (putLines (msg.afterRequestline req) msg.headerLines).headers_ ∧
          (putLines (msg.afterRequestline req) msg.headerLines).contentLength_ > 0 then
        tryDecode { putLines (msg.afterRequestline req) msg.headerLines with
          checkstate_ := .expectContent } body
      else ⟨.ok .getRequest, { putLines (msg.afterRequestline req) msg.headerLines with
          checkstate_ := .getAll }, body⟩ := by
  have hlines := msg.headerLines_line
  have hstate := msg.afterRequestline_state req
  have hstate' : (putLines (msg.afterRequestline req) msg.headerLines).checkstate_
      = .expectHeader := by
    rw [putLines_state fun line hline => (hlines line hline).1, hstate]
  have hreads := reads_wireLines
    (fun line hline => ⟨(hlines line hline).1, (hlines line hline).2.1⟩) hok
    (CR :: LF :: body) hstate
  rw [tryDecode_head, hreads.tryDecode_eq, tryDecode_blankLine hstate']

/-- What the header lines announce. -/
lemma headerLines_announce {req : HttpRequest} (hreq : req.Announces 0 False) :
    (msg.name ≠ lit "Content-length" → (putLines req msg.headerLines).Announces 0 False) ∧
      (msg.name = lit "Content-length" → ∀ n, stoi msg.value = .ok n →
        (putLines req msg.headerLines).Announces n True) := by
  have hbefore : (putLines req msg.before).Announces 0 False :=
    putLines_announces (fun line hline => msg.others line (List.mem_append_left _ hline)) hreq
  have hafter : ∀ line ∈ msg.after, OtherField line :=
    fun line hline => msg.others line (List.mem_append_right _ hline)
  have hsplit : putLines req msg.headerLines =
      putLines (headerLine (putLines req msg.before) msg.lengthLine).2 msg.after := by
    rw [putLines, headerLines, List.foldl_append, List.foldl_cons]
    rfl
  obtain ⟨hother, hspelled⟩ := msg.lengthLine_announces hbefore
  rw [hsplit]
  exact ⟨fun hname => putLines_announces hafter (hother hname),
    fun hname n hn => putLines_announces hafter (hspelled hname n hn)⟩

variable {msg}

/-! ## Requests that are understood -/

/-- The length of a request that is understood is read right. -/
lemma Understood.stoi_value (h : msg.Understood) : stoi msg.value = .ok msg.content.length :=
  msg.stoi_value_iff.mpr h.value

/-- The header lines of a request that is understood are processed. -/
lemma Understood.lines_ok (h : msg.Understood) : ∀ line ∈ msg.headerLines, HeaderLineOk line := by
  intro line hline
  rcases List.mem_append.mp hline with hline | hline
  · exact h.others line (List.mem_append_left _ hline)
  · rcases List.mem_cons.mp hline with rfl | hline
    · rw [msg.lengthLine_ok_iff, h.stoi_value]
      exact fun _ => rfl
    · exact h.others line (List.mem_append_right _ hline)

/-- Behind the header lines, a request that is understood has announced its length. -/
lemma Understood.announces (h : msg.Understood) (req : HttpRequest) :
    (putLines (msg.afterRequestline req) msg.headerLines).Announces msg.content.length True :=
  (msg.headerLines_announce (msg.afterRequestline_announces req)).2 h.name _ h.stoi_value

/-- One call on the whole request and what follows it. -/
lemma Understood.tryDecode_complete (h : msg.Understood) (req : HttpRequest) (rest : Bytes) :
    ∃ r, tryDecode req.clear (msg.head ++ msg.content ++ rest) = ⟨.ok .getRequest, r, rest⟩ ∧
      r.content_ = msg.content := by
  obtain ⟨hlength, htold⟩ := h.announces req
  have hpos : 0 < msg.content.length := List.length_pos_iff.mpr msg.content_ne
  have hsize : toSize (putLines (msg.afterRequestline req) msg.headerLines).contentLength_
      = msg.content.length := by
    have hlt := msg.content_lt
    unfold toSize
    rw [hlength]
    omega
  -- the body is there
  have hthere : ¬(msg.content ++ rest).length < msg.content.length := by
    rw [List.length_append]
    omega
  rw [List.append_assoc, msg.tryDecode_headerLines h.lines_ok,
    if_pos ⟨htold.mpr trivial, by rw [hlength]; omega⟩, tryDecode_content rfl]
  simp only [hsize, if_neg hthere, List.take_left, List.drop_left]
  exact ⟨_, rfl, rfl⟩

/-- No boundary between two chunks cuts the request. -/
lemma Understood.feed_eq (h : msg.Understood) (req : HttpRequest) {chunks : List Bytes}
    {rest : Bytes} (hchunks : chunks.flatten <+: msg.head ++ msg.content ++ rest) :
    feed req.clear [] chunks = tryDecode req.clear chunks.flatten := by
  obtain ⟨hlength, htold⟩ := h.announces req
  have hpos : 0 < msg.content.length := List.length_pos_iff.mpr msg.content_ne
  refine (feed_eq_iff_not_cuts chunks (tryDecode_clear_nil req)).mpr ?_
  rintro pre suf rfl ⟨r, tail, hb, -⟩
  rw [List.nil_append] at hb
  have hfed : pre.flatten <+: msg.head ++ (msg.content ++ rest) := by
    rw [List.flatten_append, List.append_assoc] at hchunks
    exact (List.prefix_append _ _).trans hchunks
  rw [head_append] at hfed
  -- the chunks so far end in the request line, or behind it
  rcases prefix_wireLine msg.requestline_chars.2 hfed with ⟨hnone, hno⟩ | ⟨fed, hpre, hfed⟩
  · exact hno ((bareLF_of_none (Or.inl rfl) hnone).mp hb).2.2
  · rw [hpre] at hb
    have hnext := ((bareLF_of_some (Or.inl rfl)
      (findCRLF_wireLine msg.requestline_chars.1 fed)).mp hb).2
    rw [List.take_left, readLine_requestline, drop_wireLine] at hnext
    exact not_bareLF_wireLines msg.headerLines_line h.lines_ok (msg.afterRequestline_state req)
      ⟨htold.mpr trivial, by rw [hlength]; omega⟩ hfed r tail hnext

/-- A request that is understood is framed, however its bytes arrive. -/
lemma Understood.framed (h : msg.Understood) : msg.Framed where
  early := by
    intro req chunks hchunks hne hresult
    have hprefix : chunks.flatten <+: msg.head ++ msg.content ++ [] := by
      rwa [List.append_nil]
    obtain ⟨t, ht⟩ := hchunks
    rw [h.feed_eq req hprefix] at hresult
    -- bytes added at the end would be left unread
    obtain ⟨r, hcomplete, -⟩ := h.tryDecode_complete req []
    rw [List.append_nil, ← ht] at hcomplete
    have hbare : ∀ r tail, ¬BareLF req.clear chunks.flatten r tail := by
      intro r tail hb
      rw [hb.answer] at hresult
      cases hresult
    rw [tryDecode_append req.clear chunks.flatten t hbare, if_neg (by rw [hresult]; simp)]
      at hcomplete
    obtain ⟨-, rfl⟩ := List.append_eq_nil_iff.mp (congrArg Decoded.buf hcomplete)
    rw [List.append_nil] at ht
    exact hne ht
  complete := by
    intro req chunks rest hchunks
    have hprefix : chunks.flatten <+: msg.head ++ msg.content ++ rest := by
      rw [hchunks]
    obtain ⟨r, hcomplete, hcontent⟩ := h.tryDecode_complete req rest
    rw [h.feed_eq req hprefix, hchunks, hcomplete]
    exact ⟨rfl, hcontent, rfl⟩

/-! ## Requests that are framed -/

/-- A single chunk is a single call, up to the answer that asks for more. -/
lemma feed_singleton {req : HttpRequest} {buf : Bytes}
    (h : (tryDecode req buf).result ≠ .ok .noRequest ∨
      (feed req [] [buf]).result = .ok .getRequest) :
    feed req [] [buf] = tryDecode req buf := by
  rw [feed] at h ⊢
  simp only [List.nil_append] at h ⊢
  by_cases hno : (tryDecode req buf).result = .ok .noRequest
  · rw [if_pos hno, feed] at h
    rcases h with h | h
    · exact absurd hno h
    · cases h
  · rw [if_neg hno, List.flatten_nil, List.append_nil]

/-- A request that is framed has been understood. -/
lemma Framed.understood (h : msg.Framed) : msg.Understood := by
  obtain ⟨hresult, hcontent, -⟩ := h.complete {} [msg.head ++ msg.content] [] (by simp)
  have hfeed := feed_singleton (Or.inr hresult)
  rw [hfeed] at hresult hcontent
  -- the call answers, so it has accepted the header lines
  have hok : ∀ line ∈ msg.headerLines, HeaderLineOk line := by
    rw [tryDecode_head] at hresult
    exact accepted_of_answer
      (fun line hline => ⟨(msg.headerLines_line line hline).1, (msg.headerLines_line line hline).2.1⟩)
      (msg.afterRequestline_state {}) hresult
  obtain ⟨hother, hspelled⟩ := msg.headerLines_announce (msg.afterRequestline_announces {})
  rw [msg.tryDecode_headerLines hok] at hresult hcontent
  by_cases hbody : lit "Content-length" ∈
        (putLines (msg.afterRequestline {}) msg.headerLines).headers_ ∧
      (putLines (msg.afterRequestline {}) msg.headerLines).contentLength_ > 0
  · have hname : msg.name = lit "Content-length" := by
      by_contra hname
      exact (hother hname).2.mp hbody.1
    obtain ⟨n, hn⟩ : ∃ n, stoi msg.value = .ok n := by
      have hline : HeaderLineOk msg.lengthLine :=
        hok _ (List.mem_append_right _ List.mem_cons_self)
      cases hvalue : stoi msg.value with
      | ok n => exact ⟨n, rfl⟩
      | error e =>
        have hreads := msg.lengthLine_ok_iff.mp hline hname
        rw [hvalue] at hreads
        cases hreads
    obtain ⟨hlength, -⟩ := hspelled hname n hn
    -- the content is as long as the number says
    rw [if_pos hbody, tryDecode_content rfl] at hresult hcontent
    have hsize : toSize n = msg.content.length := by
      simp only [hlength] at hresult hcontent
      split at hcontent
      · rename_i hshort
        rw [if_pos hshort] at hresult
        cases hresult
      · have hlen := congrArg List.length hcontent
        rw [List.length_take] at hlen
        omega
    have hpos : n > 0 := hlength ▸ hbody.2
    have hlt := stoi_lt hn
    have hexact : n = msg.content.length := by
      unfold toSize at hsize
      omega
    refine ⟨hname, msg.stoi_value_iff.mp (hexact ▸ hn), fun line hline => hok line ?_⟩
    rcases List.mem_append.mp hline with hline | hline
    · exact List.mem_append_left _ hline
    · exact List.mem_append_right _ (List.mem_cons_of_mem _ hline)
  · -- the head alone is answered as a complete request
    exfalso
    have hhead : (tryDecode (clear {}) msg.head).result = .ok .getRequest := by
      have hdecode := msg.tryDecode_headerLines hok {} []
      rw [List.append_nil, if_neg hbody] at hdecode
      rw [hdecode]
    refine h.early {} [msg.head] (by simp) (by simp [msg.content_ne]) ?_
    rw [feed_singleton (Or.inl (by rw [hhead]; simp))]
    exact hhead

/-- **The body of a request is found iff its length field is understood.** -/
theorem framed_iff (msg : LengthRequest) : msg.Framed ↔ msg.Understood :=
  ⟨Framed.understood, Understood.framed⟩

/-- A body of five bytes, announced as `addContentLength` announces one. -/
def ownSpelling : LengthRequest where
  requestline := lit "POST / HTTP/1.1"
  before := [lit "Host: a"]
  after := []
  name := lit "Content-Length"
  spaces := 0
  digits := lit "5"
  content := lit "hello"
  requestline_ok := by decide
  requestline_chars := by decide
  others := by
    rintro line ⟨⟩
    · exact ⟨lit "Host", lit " a", by decide, by decide, by decide, by decide, by decide⟩
    · contradiction
  name_spelled := by decide
  digits_ok := List.all_eq_true.mp (by decide)
  announced := by decide
  content_ne := by decide
  content_lt := by decide

/-- The head alone is answered `GET_REQUEST`: its length field is not the one that is looked up. -/
theorem not_framed : ¬∀ msg : LengthRequest, msg.Framed := by
  intro h
  have hprefix : [ownSpelling.head].flatten <+: ownSpelling.head ++ ownSpelling.content := by
    simp
  have hhead : (feed (clear {}) [] [ownSpelling.head]).result = .ok .getRequest := by decide +kernel
  exact (h ownSpelling).early {} [ownSpelling.head] hprefix (by decide +kernel) hhead

end LengthRequest

end HttpRequest
end Miniduo
