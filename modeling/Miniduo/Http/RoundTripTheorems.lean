import Miniduo.Http.DecodeTheorems

/-!
# Decoding undoes encoding

A `WireRequest` is a request that a client may send, with what makes it well formed as fields.
`encode` writes it down, and `decode_encode` reads a sequence of them back, one `tryDecode` and one
`clear` for each.
-/

namespace Miniduo
namespace HttpRequest

/-- A request as a client sends it. -/
structure WireRequest where
  method : Bytes
  /-- The host of a target in absolute form. -/
  host : Option Bytes
  path : Bytes
  query : Option Bytes
  version : Bytes
  headers : List (Bytes × Bytes)
  content : Bytes
  method_supported : (supportedMethods method).isSome
  host_chars : ∀ h ∈ host, ∀ c ∈ h, c ≠ 47 ∧ c ≠ 63 ∧ isspace c = false
  path_slash : path.head? = some 47
  path_chars : ∀ c ∈ path, c ≠ 63 ∧ isspace c = false
  query_chars : ∀ q ∈ query, ∀ c ∈ q, isspace c = false
  version_supported : (supportedVersions version).isSome
  names_nodup : (headers.map Prod.fst).Nodup
  name_chars : ∀ h ∈ headers, ∀ c ∈ h.1, c ≠ 58 ∧ c ≠ CR ∧ c ≠ LF
  value_chars : ∀ h ∈ headers, ∀ c ∈ h.2, c ≠ CR ∧ c ≠ LF
  content_length : content.length < 2 ^ 31
  /-- The field `Content-length` is a decimal numeral for the length of the content. -/
  announced : ∀ h ∈ headers, h.1 = lit "Content-length" →
    h.2 ≠ [] ∧ (∀ c ∈ h.2, isdigit c = true) ∧ decimalValue h.2 = content.length
  /-- The field is absent only if there is no content. -/
  announces : content ≠ [] → lit "Content-length" ∈ headers.map Prod.fst

namespace WireRequest

def hostPrefix (msg : WireRequest) : Bytes :=
  match msg.host with
  | some host => lit "http://" ++ host
  | none => []

def querySuffix (msg : WireRequest) : Bytes :=
  match msg.query with
  | some query => 63 :: query
  | none => []

def target (msg : WireRequest) : Bytes := msg.hostPrefix ++ (msg.path ++ msg.querySuffix)

def requestline (msg : WireRequest) : Bytes :=
  msg.method ++ 32 :: (msg.target ++ 32 :: msg.version)

/-- `name: value`. -/
def headerline (header : Bytes × Bytes) : Bytes := header.1 ++ 58 :: 32 :: header.2

/-- The header lines and the blank line behind them. -/
def encodeHeaders : List (Bytes × Bytes) → Bytes → Bytes
  | [], content => CR :: LF :: content
  | header :: headers, content =>
    headerline header ++ CR :: LF :: encodeHeaders headers content

def encode (msg : WireRequest) : Bytes :=
  msg.requestline ++ CR :: LF :: encodeHeaders msg.headers msg.content

end WireRequest

/-- The fields of the request are those of the message. -/
structure Carries (req : HttpRequest) (msg : WireRequest) : Prop where
  method : req.method_ = msg.method
  path : req.URL_ = msg.path
  query : req.query_ = msg.query.getD []
  version : req.version_ = msg.version
  headers : ∀ name value, req.headers_.lookup name = some value ↔ (name, value) ∈ msg.headers
  content : req.content_ = msg.content

/-- `tryDecode` then `clear`, for `n` requests: what each call leaves, the request and the bytes
left at the end. -/
def decodeAll : ℕ → HttpRequest → Bytes → List (Except Fault HttpCode × HttpRequest) × HttpRequest × Bytes
  | 0, req, buf => ([], req, buf)
  | n + 1, req, buf =>
    let d := tryDecode req buf
    let (ds, rest) := decodeAll n d.req.clear d.buf
    ((d.result, d.req) :: ds, rest)

/-! ## The request line -/

lemma not_isspace_of_all {s : Bytes} (h : s.all (!isspace ·) = true) : ∀ c ∈ s, isspace c = false := by
  intro c hc
  have hall := List.all_eq_true.mp h c hc
  rwa [Bool.not_eq_true'] at hall

lemma supportedMethods_chars {method : Bytes} (h : (supportedMethods method).isSome) :
    method ≠ [] ∧ ∀ c ∈ method, isspace c = false := by
  unfold supportedMethods at h
  split at h
  · rename_i hm; subst hm; exact ⟨by decide, not_isspace_of_all (by decide)⟩
  · split at h
    · rename_i hm; subst hm; exact ⟨by decide, not_isspace_of_all (by decide)⟩
    · cases h

lemma supportedVersions_chars {version : Bytes} (h : (supportedVersions version).isSome) :
    version ≠ [] ∧ ∀ c ∈ version, isspace c = false := by
  unfold supportedVersions at h
  split at h
  · rename_i hv; subst hv; exact ⟨by decide, not_isspace_of_all (by decide)⟩
  · split at h
    · rename_i hv; subst hv; exact ⟨by decide, not_isspace_of_all (by decide)⟩
    · split at h
      · rename_i hv; subst hv; exact ⟨by decide, not_isspace_of_all (by decide)⟩
      · split at h
        · rename_i hv; subst hv; exact ⟨by decide, not_isspace_of_all (by decide)⟩
        · cases h

section
variable (msg : WireRequest)

lemma path_cons : ∃ s, msg.path = 47 :: s := by
  have h := msg.path_slash
  cases hp : msg.path with
  | nil => rw [hp] at h; cases h
  | cons c s =>
    rw [hp, List.head?_cons, Option.some.injEq] at h
    exact ⟨s, by rw [h]⟩

lemma hostPrefix_chars : ∀ c ∈ msg.hostPrefix, isspace c = false := by
  intro c hc
  unfold WireRequest.hostPrefix at hc
  cases hhost : msg.host with
  | none => rw [hhost] at hc; cases hc
  | some host =>
    rw [hhost] at hc
    rcases List.mem_append.mp hc with hc | hc
    · exact not_isspace_of_all (s := lit "http://") (by decide) c hc
    · exact (msg.host_chars host hhost c hc).2.2

lemma querySuffix_chars : ∀ c ∈ msg.querySuffix, isspace c = false := by
  intro c hc
  unfold WireRequest.querySuffix at hc
  cases hquery : msg.query with
  | none => rw [hquery] at hc; cases hc
  | some query =>
    rw [hquery] at hc
    rcases List.mem_cons.mp hc with rfl | hc
    · decide
    · exact msg.query_chars query hquery c hc

lemma target_chars : msg.target ≠ [] ∧ ∀ c ∈ msg.target, isspace c = false := by
  obtain ⟨s, hpath⟩ := path_cons msg
  unfold WireRequest.target
  refine ⟨by simp [hpath], fun c hc => ?_⟩
  rcases List.mem_append.mp hc with hc | hc
  · exact hostPrefix_chars msg c hc
  rcases List.mem_append.mp hc with hc | hc
  · exact (msg.path_chars c hc).2
  · exact querySuffix_chars msg c hc

/-- The three words of the request line. -/
lemma extractWord_requestline :
    extractWord msg.requestline = (msg.method, 32 :: (msg.target ++ 32 :: msg.version)) ∧
      extractWord (32 :: (msg.target ++ 32 :: msg.version)) = (msg.target, 32 :: msg.version) ∧
      extractWord (32 :: msg.version) = (msg.version, []) := by
  obtain ⟨hmethod, hmethod'⟩ := supportedMethods_chars msg.method_supported
  obtain ⟨htarget, htarget'⟩ := target_chars msg
  obtain ⟨hversion, hversion'⟩ := supportedVersions_chars msg.version_supported
  refine ⟨?_, ?_, ?_⟩
  · exact extractWord_append hmethod' hmethod (Or.inr ⟨32, _, rfl, rfl⟩)
  · rw [extractWord_space]
    exact extractWord_append htarget' htarget (Or.inr ⟨32, _, rfl, rfl⟩)
  · rw [extractWord_space]
    have h := extractWord_append hversion' hversion (Or.inl rfl)
    rwa [List.append_nil] at h

lemma not_CR_of_not_isspace {c : Byte} (h : isspace c = false) : c ≠ CR := by
  intro hc
  rw [hc] at h
  exact absurd h (by decide)

lemma CR_notMem_requestline : CR ∉ msg.requestline := by
  obtain ⟨-, hmethod⟩ := supportedMethods_chars msg.method_supported
  obtain ⟨-, htarget⟩ := target_chars msg
  obtain ⟨-, hversion⟩ := supportedVersions_chars msg.version_supported
  intro h
  unfold WireRequest.requestline at h
  rcases List.mem_append.mp h with h | h
  · exact not_CR_of_not_isspace (hmethod CR h) rfl
  rcases List.mem_cons.mp h with h | h
  · exact absurd h (by decide)
  rcases List.mem_append.mp h with h | h
  · exact not_CR_of_not_isspace (htarget CR h) rfl
  rcases List.mem_cons.mp h with h | h
  · exact absurd h (by decide)
  · exact not_CR_of_not_isspace (hversion CR h) rfl

/-- Behind `http://` and up to the first slash stands the host. -/
lemma strip_target :
    ∃ host, (if (lit "http://").isPrefixOf msg.target then msg.target.drop 7 else msg.target) =
        host ++ (msg.path ++ msg.querySuffix) ∧ 47 ∉ host := by
  obtain ⟨s, hpath⟩ := path_cons msg
  unfold WireRequest.target WireRequest.hostPrefix
  cases hhost : msg.host with
  | none =>
    refine ⟨[], ?_, List.not_mem_nil⟩
    -- a path does not start with `h`
    have hno : ¬(lit "http://").isPrefixOf ([] ++ (msg.path ++ msg.querySuffix)) = true := by
      rw [hpath]
      simp [lit, List.isPrefixOf]
    exact if_neg hno
  | some host =>
    refine ⟨host, ?_, fun h => (msg.host_chars host hhost 47 h).1 rfl⟩
    have hyes : (lit "http://").isPrefixOf
        (lit "http://" ++ host ++ (msg.path ++ msg.querySuffix)) = true := by
      rw [List.isPrefixOf_iff_prefix, List.append_assoc]
      exact List.prefix_append _ _
    show (if (lit "http://").isPrefixOf (lit "http://" ++ host ++ (msg.path ++ msg.querySuffix)) then
      _ else _) = _
    rw [if_pos hyes, List.append_assoc]
    exact List.drop_left' (by rfl)

/-- The path ends at the first `?`. -/
lemma split_query (req : HttpRequest) :
    setTarget req (msg.path ++ msg.querySuffix) =
      { req with URL_ := msg.path, query_ := msg.query.getD req.query_ } := by
  have hpath : 63 ∉ msg.path := fun h => (msg.path_chars 63 h).1 rfl
  unfold setTarget WireRequest.querySuffix
  cases msg.query with
  | none =>
    rw [List.append_nil, List.idxOf?_eq_none_iff.mpr hpath]
    rfl
  | some query =>
    have hdrop : (msg.path ++ 63 :: query).drop (msg.path.length + 1) = query := by
      rw [List.drop_append, List.drop_eq_nil_of_le (by omega), Nat.add_sub_cancel_left]
      rfl
    rw [idxOf?_of_notMem hpath]
    simp only [List.take_left, hdrop, Option.getD_some]

/-- What the request line leaves in a cleared request. -/
structure AfterRequestline (req : HttpRequest) : Prop where
  state : req.checkstate_ = .expectHeader
  method : req.method_ = msg.method
  path : req.URL_ = msg.path
  query : req.query_ = msg.query.getD []
  version : req.version_ = msg.version
  headers : req.headers_ = ∅
  length : req.contentLength_ = 0
  content : req.content_ = []

lemma requestLine_requestline (req : HttpRequest) :
    (requestLine req.clear msg.requestline).1 = .noRequest ∧
      AfterRequestline msg (requestLine req.clear msg.requestline).2 := by
  obtain ⟨hmethod, htarget, hversion⟩ := extractWord_requestline msg
  obtain ⟨host, hstrip, hhost⟩ := strip_target msg
  obtain ⟨s, hpath⟩ := path_cons msg
  obtain ⟨methodType, hm⟩ := Option.isSome_iff_exists.mp msg.method_supported
  obtain ⟨versionType, hv⟩ := Option.isSome_iff_exists.mp msg.version_supported
  -- the first slash of the stripped target is that of the path
  have hslash : (host ++ (msg.path ++ msg.querySuffix)).idxOf? 47 = some host.length := by
    rw [hpath, List.cons_append]
    exact idxOf?_of_notMem hhost _
  have hdrop : (host ++ (msg.path ++ msg.querySuffix)).drop host.length =
      msg.path ++ msg.querySuffix := List.drop_left
  have hquery := split_query msg { req.clear with method_ := msg.method, methodType_ := methodType }
  unfold requestLine
  simp only [hmethod, htarget, hversion, hm, hv, hstrip, hslash, hdrop, hquery]
  exact ⟨trivial, rfl, rfl, rfl, rfl, rfl, rfl, rfl, rfl⟩

end

/-! ## The headers -/

/-- What a well-formed header line does to the request. -/
def putHeader (req : HttpRequest) (header : Bytes × Bytes) : HttpRequest :=
  { req with
    headers_ := req.headers_.insert header.1 header.2
    contentLength_ :=
      if header.1 = lit "Content-length" then (decimalValue header.2 : ℤ) else req.contentLength_ }

lemma headerLine_headerline {req : HttpRequest} {name value : Bytes} (hname : 58 ∉ name)
    (hvalue : name = lit "Content-length" → stoi value = .ok (decimalValue value)) :
    headerLine req (WireRequest.headerline (name, value)) =
      (.ok .noRequest, putHeader req (name, value)) := by
  unfold WireRequest.headerline headerLine putHeader
  have hne : name ++ 58 :: 32 :: value ≠ [] := by simp
  have hdrop : (name ++ 58 :: 32 :: value).drop (name.length + 2) = value := by
    rw [List.drop_append, List.drop_eq_nil_of_le (by omega), Nat.add_sub_cancel_left]
    rfl
  have hle : name.length + 2 ≤ (name ++ 58 :: 32 :: value).length := by
    simp only [List.length_append, List.length_cons]
    omega
  simp only [if_neg hne, idxOf?_of_notMem hname, if_pos hle, List.take_left, hdrop]
  by_cases hfield : name = lit "Content-length"
  · simp only [if_pos hfield, hvalue hfield]
  · simp only [if_neg hfield]

section
variable {headers : List (Bytes × Bytes)} {content : Bytes}

/-- All header lines are read. -/
lemma tryDecode_encodeHeaders (hname : ∀ h ∈ headers, 58 ∉ h.1 ∧ CR ∉ h.1 ∧ CR ∉ h.2)
    (hvalue : ∀ h ∈ headers, h.1 = lit "Content-length" → stoi h.2 = .ok (decimalValue h.2)) :
    ∀ {req : HttpRequest}, req.checkstate_ = .expectHeader →
      tryDecode req (WireRequest.encodeHeaders headers content) =
        tryDecode (headers.foldl putHeader req) (CR :: LF :: content) := by
  induction headers with
  | nil => intro req _; rfl
  | cons header headers ih =>
    intro req hstate
    obtain ⟨⟨hcolon, hcr, hcr'⟩, hname⟩ := List.forall_mem_cons.mp hname
    obtain ⟨hlength, hvalue⟩ := List.forall_mem_cons.mp hvalue
    have hline : CR ∉ WireRequest.headerline header := by
      unfold WireRequest.headerline
      intro h
      rcases List.mem_append.mp h with h | h
      · exact hcr h
      rcases List.mem_cons.mp h with h | h
      · exact absurd h (by decide)
      rcases List.mem_cons.mp h with h | h
      · exact absurd h (by decide)
      · exact hcr' h
    -- the first CRLF is the one behind this header
    have hi := Separator.findPair_of_notMem hline (b := LF)
      (WireRequest.encodeHeaders headers content)
    have hdrop : (WireRequest.headerline header ++ CR :: LF ::
        WireRequest.encodeHeaders headers content).drop
          ((WireRequest.headerline header).length + 2) =
        WireRequest.encodeHeaders headers content := by
      rw [List.drop_append, List.drop_eq_nil_of_le (by omega), Nat.add_sub_cancel_left]
      rfl
    have hread : readLine req (WireRequest.headerline header) =
        (.ok .noRequest, putHeader req header) := by
      rw [readLine, if_neg (by rw [hstate]; simp)]
      exact headerLine_headerline hcolon hlength
    rw [WireRequest.encodeHeaders, tryDecode_line (Or.inr hstate) hi, List.take_left, hdrop, hread,
      if_pos rfl, List.foldl_cons]
    exact ih hname hvalue hstate

/-- The header lines touch the headers and the announced length only. -/
lemma foldl_putHeader_frame (headers : List (Bytes × Bytes)) (req : HttpRequest) :
    ∃ headers' length, headers.foldl putHeader req =
      { req with headers_ := headers', contentLength_ := length } := by
  induction headers generalizing req with
  | nil => exact ⟨req.headers_, req.contentLength_, rfl⟩
  | cons header headers ih =>
    obtain ⟨headers', length, h⟩ := ih (putHeader req header)
    exact ⟨headers', length, by rw [List.foldl_cons, h]; rfl⟩

/-- Headers with distinct names are looked up as they were sent. -/
lemma lookup_foldl_putHeader (hnodup : (headers.map Prod.fst).Nodup) (name value : Bytes) :
    ∀ req : HttpRequest, (∀ h ∈ headers, h.1 ∉ req.headers_) →
      ((headers.foldl putHeader req).headers_.lookup name = some value ↔
        (name, value) ∈ headers ∨ req.headers_.lookup name = some value) := by
  induction headers with
  | nil => intro req _; simp
  | cons header headers ih =>
    intro req hfresh
    rw [List.map_cons, List.nodup_cons] at hnodup
    obtain ⟨hnotin, hnodup⟩ := hnodup
    obtain ⟨hhead, hfresh⟩ := List.forall_mem_cons.mp hfresh
    -- this header hides none of the others
    have hnext : ∀ h ∈ headers, h.1 ∉ (putHeader req header).headers_ := by
      intro h hh hmem
      rcases Finmap.mem_insert.mp hmem with heq | hmem
      · exact hnotin (heq ▸ List.mem_map_of_mem hh)
      · exact hfresh h hh hmem
    rw [List.foldl_cons, ih hnodup _ hnext]
    by_cases hname : name = header.1
    · subst hname
      have hnone : req.headers_.lookup header.1 = none := Finmap.lookup_eq_none.mpr hhead
      have hno : (header.1, value) ∉ headers := fun h => hnotin (List.mem_map.mpr ⟨_, h, rfl⟩)
      simp only [putHeader, Finmap.lookup_insert, hnone, Option.some.injEq, List.mem_cons, hno,
        false_or, or_false, reduceCtorEq, Prod.ext_iff, true_and]
      exact eq_comm
    · simp only [putHeader, Finmap.lookup_insert_of_ne _ hname, List.mem_cons, Prod.ext_iff, hname,
        false_and, false_or]

/-- The length is the one that the field `Content-length` announces. -/
lemma contentLength_foldl_putHeader {n : ℕ}
    (hvalue : ∀ h ∈ headers, h.1 = lit "Content-length" → decimalValue h.2 = n) :
    ∀ req : HttpRequest, (headers.foldl putHeader req).contentLength_ =
      if lit "Content-length" ∈ headers.map Prod.fst then (n : ℤ) else req.contentLength_ := by
  induction headers with
  | nil => intro req; simp
  | cons header headers ih =>
    intro req
    obtain ⟨hhead, hvalue⟩ := List.forall_mem_cons.mp hvalue
    rw [List.foldl_cons, ih hvalue]
    by_cases hfield : header.1 = lit "Content-length"
    · simp [putHeader, hfield, hhead hfield]
    · have hmem : lit "Content-length" ∈ (header :: headers).map Prod.fst ↔
          lit "Content-length" ∈ headers.map Prod.fst := by
        rw [List.map_cons, List.mem_cons]
        exact or_iff_right fun h => hfield h.symm
      simp only [hmem, putHeader, if_neg hfield]

end

/-! ## Whole requests -/

/-- The blank line and the body behind it. -/
lemma tryDecode_blank {req : HttpRequest} {n : ℕ} (content rest : Bytes)
    (hstate : req.checkstate_ = .expectHeader) (hlength : req.contentLength_ = n)
    (hn : n = content.length) (hlt : n < 2 ^ 31) (hempty : req.content_ = [])
    (hannounced : content ≠ [] → lit "Content-length" ∈ req.headers_) :
    tryDecode req (CR :: LF :: (content ++ rest)) =
      ⟨.ok .getRequest, { req with content_ := content, checkstate_ := .getAll }, rest⟩ := by
  have hi : findCRLF (CR :: LF :: (content ++ rest)) = some 0 := Separator.findPair_pos
  have hread : readLine req [] = headerLine req [] := by
    rw [readLine, if_neg (by rw [hstate]; simp)]
  have hbehind : (CR :: LF :: (content ++ rest)).drop (0 + 2) = content ++ rest := rfl
  rw [tryDecode_line (Or.inr hstate) hi, List.take_zero, hread, headerLine, if_pos rfl, hbehind]
  by_cases hnil : content = []
  · -- no body: the blank line completes the request
    subst hnil
    have hno : ¬(lit "Content-length" ∈ req.headers_ ∧ req.contentLength_ > 0) := by
      rw [hlength, hn, List.length_nil]
      simp
    rw [if_neg hno, if_neg (by simp), List.nil_append, ← hempty]
  · have hpos : 0 < content.length := List.length_pos_iff.mpr hnil
    have hyes : lit "Content-length" ∈ req.headers_ ∧ req.contentLength_ > 0 :=
      ⟨hannounced hnil, by rw [hlength]; omega⟩
    have hsize : toSize req.contentLength_ = content.length := by
      unfold toSize
      rw [hlength]
      omega
    rw [if_pos hyes, if_pos rfl, tryDecode_content rfl]
    show (if (content ++ rest).length < toSize req.contentLength_ then _ else _ : Decoded) = _
    rw [hsize, if_neg (by rw [List.length_append]; omega)]
    simp only [List.take_left, List.drop_left]

lemma encodeHeaders_append (headers : List (Bytes × Bytes)) (content rest : Bytes) :
    WireRequest.encodeHeaders headers content ++ rest =
      WireRequest.encodeHeaders headers (content ++ rest) := by
  induction headers with
  | nil => rfl
  | cons header headers ih =>
    rw [WireRequest.encodeHeaders, WireRequest.encodeHeaders, List.append_assoc, List.cons_append,
      List.cons_append, ih]

/-- The request line of an encoded request is read. -/
lemma tryDecode_requestline (req : HttpRequest) (msg : WireRequest) (rest : Bytes) :
    tryDecode req.clear (msg.encode ++ rest) =
      tryDecode (requestLine req.clear msg.requestline).2
        (WireRequest.encodeHeaders msg.headers (msg.content ++ rest)) := by
  have hi := Separator.findPair_of_notMem (b := LF) (CR_notMem_requestline msg)
    (WireRequest.encodeHeaders msg.headers (msg.content ++ rest))
  have hencode : msg.encode ++ rest = msg.requestline ++ CR :: LF ::
      WireRequest.encodeHeaders msg.headers (msg.content ++ rest) := by
    rw [WireRequest.encode, List.append_assoc, List.cons_append, List.cons_append,
      encodeHeaders_append]
  have hdrop : (msg.requestline ++ CR :: LF :: WireRequest.encodeHeaders msg.headers
      (msg.content ++ rest)).drop (msg.requestline.length + 2) =
        WireRequest.encodeHeaders msg.headers (msg.content ++ rest) := by
    rw [List.drop_append, List.drop_eq_nil_of_le (by omega), Nat.add_sub_cancel_left]
    rfl
  have hread : readLine req.clear msg.requestline =
      (.ok (requestLine req.clear msg.requestline).1, (requestLine req.clear msg.requestline).2) :=
    rfl
  rw [hencode, tryDecode_line (Or.inl rfl) hi, List.take_left, hdrop, hread,
    (requestLine_requestline msg req).1, if_pos rfl]

/-- One encoded request is decoded as it was sent, and nothing behind it is read. -/
lemma tryDecode_encode (req : HttpRequest) (msg : WireRequest) (rest : Bytes) :
    ∃ r, tryDecode req.clear (msg.encode ++ rest) = ⟨.ok .getRequest, r, rest⟩ ∧ Carries r msg := by
  have hafter := (requestLine_requestline msg req).2
  have hname : ∀ h ∈ msg.headers, 58 ∉ h.1 ∧ CR ∉ h.1 ∧ CR ∉ h.2 := fun h hh =>
    ⟨fun hc => (msg.name_chars h hh 58 hc).1 rfl, fun hc => (msg.name_chars h hh CR hc).2.1 rfl,
      fun hc => (msg.value_chars h hh CR hc).1 rfl⟩
  have hvalue : ∀ h ∈ msg.headers, h.1 = lit "Content-length" →
      stoi h.2 = .ok (decimalValue h.2) := by
    intro h hh hfield
    obtain ⟨hne, hdigits, hvalue⟩ := msg.announced h hh hfield
    exact stoi_digits hne hdigits (by rw [hvalue]; exact msg.content_length)
  rw [tryDecode_requestline, tryDecode_encodeHeaders hname hvalue hafter.state]
  -- what the header lines leave
  obtain ⟨headers', length, hframe⟩ :=
    foldl_putHeader_frame msg.headers (requestLine req.clear msg.requestline).2
  have hlookup := fun name value => lookup_foldl_putHeader msg.names_nodup name value
    (requestLine req.clear msg.requestline).2
    (fun h _ => by rw [hafter.headers]; exact Finmap.notMem_empty)
  have hlength := contentLength_foldl_putHeader (n := msg.content.length)
    (fun h hh hfield => (msg.announced h hh hfield).2.2)
    (requestLine req.clear msg.requestline).2
  rw [hafter.length] at hlength
  rw [hframe] at hlookup hlength ⊢
  have hannounced : msg.content ≠ [] → lit "Content-length" ∈ headers' := by
    intro hne
    obtain ⟨⟨name, value⟩, hmem, hfield⟩ := List.mem_map.mp (msg.announces hne)
    have h := (hlookup name value).mpr (Or.inl hmem)
    rw [← hfield]
    exact Finmap.mem_of_lookup_eq_some h
  have hlength' : length = (msg.content.length : ℤ) := by
    by_cases hfield : lit "Content-length" ∈ msg.headers.map Prod.fst
    · rw [if_pos hfield] at hlength
      exact hlength
    · rw [if_neg hfield] at hlength
      have hnil : msg.content = [] := by
        by_contra hne
        exact hfield (msg.announces hne)
      rw [hnil]
      exact hlength
  refine ⟨_, tryDecode_blank msg.content rest hafter.state hlength' rfl msg.content_length
    hafter.content hannounced, ?_⟩
  refine ⟨hafter.method, hafter.path, hafter.query, hafter.version, fun name value => ?_, rfl⟩
  show headers'.lookup name = some value ↔ _
  rw [hlookup name value, hafter.headers, Finmap.lookup_empty]
  simp

/-- **Decoding undoes encoding.** A sequence of encoded requests is decoded to `GET_REQUEST`s that
carry them, in order, and the bytes behind the last one are left in the buffer. -/
theorem decode_encode (req : HttpRequest) (msgs : List WireRequest) (trailing : Bytes) :
    ∃ ds r, decodeAll msgs.length req.clear (msgs.flatMap WireRequest.encode ++ trailing) =
        (ds, r, trailing) ∧
      List.Forall₂ (fun d msg => d.1 = .ok .getRequest ∧ Carries d.2 msg) ds msgs := by
  induction msgs generalizing req with
  | nil => exact ⟨[], req.clear, rfl, .nil⟩
  | cons msg msgs ih =>
    obtain ⟨r, hdecode, hcarries⟩ :=
      tryDecode_encode req msg (msgs.flatMap WireRequest.encode ++ trailing)
    obtain ⟨ds, r', hrest, hall⟩ := ih r
    refine ⟨(.ok .getRequest, r) :: ds, r', ?_, .cons ⟨rfl, hcarries⟩ hall⟩
    rw [List.flatMap_cons, List.append_assoc, List.length_cons, decodeAll, hdecode]
    simp only [hrest]

example : ∃ msg : WireRequest, msg.encode =
    lit "POST http://host/a?b HTTP/1.1\r\nContent-length: 2\r\n\r\nhi" :=
  ⟨{ method := lit "POST", host := some (lit "host"), path := lit "/a", query := some (lit "b"),
     version := lit "HTTP/1.1", headers := [(lit "Content-length", lit "2")], content := lit "hi",
     method_supported := by decide, host_chars := by decide +kernel, path_slash := by decide,
     path_chars := by decide +kernel, query_chars := by decide +kernel,
     version_supported := by decide, names_nodup := by decide, name_chars := by decide +kernel,
     value_chars := by decide +kernel, content_length := by decide,
     announced := by decide +kernel, announces := by decide }, by decide⟩

end HttpRequest
end Miniduo
