import Miniduo.Http.DecodeTheorems

/-!
# Decoding chunk by chunk

`feed` gives the decoder the chunks of a byte string one at a time. It differs from one call on
the whole string exactly when some chunk ends inside a line behind a bare line feed:
`parseLine` gives that line up as `LINE_BAD`, although the rest of the line is still to come.
-/

namespace Miniduo
namespace HttpRequest

/-! ## Whole lines that have been read -/

/-- Reading whole lines of the buffer takes the first request and buffer to the second. -/
inductive Reads : HttpRequest → Bytes → HttpRequest → Bytes → Prop
  | refl (req : HttpRequest) (buf : Bytes) : Reads req buf req buf
  | line {req req' : HttpRequest} {buf buf' : Bytes} {i : ℕ} (hreads : req.ReadsLines)
      (hi : findCRLF buf = some i) (hgo : (readLine req (buf.take i)).1 = .ok .noRequest)
      (hrest : Reads (readLine req (buf.take i)).2 (buf.drop (i + 2)) req' buf') :
      Reads req buf req' buf'

lemma take_append_of_find {buf : Bytes} {i : ℕ} (hi : findCRLF buf = some i) (t : Bytes) :
    (buf ++ t).take i = buf.take i := by
  have hlen := Separator.findPair_le hi
  exact List.take_append_of_le_length (by omega)

lemma drop_append_of_find {buf : Bytes} {i : ℕ} (hi : findCRLF buf = some i) (t : Bytes) :
    (buf ++ t).drop (i + 2) = buf.drop (i + 2) ++ t := by
  have hlen := Separator.findPair_le hi
  exact List.drop_append_of_le_length hlen

section
variable {req r r' : HttpRequest} {buf b b' : Bytes}

lemma Reads.append (h : Reads req buf r b) (t : Bytes) : Reads req (buf ++ t) r (b ++ t) := by
  induction h with
  | refl req buf => exact .refl _ _
  | @line req req' buf buf' i hreads hi hgo hrest ih =>
    refine .line hreads (Separator.findPair_append hi t) ?_ ?_
    · rw [take_append_of_find hi]; exact hgo
    · rw [take_append_of_find hi, drop_append_of_find hi]; exact ih

lemma Reads.trans (h : Reads req buf r b) (h' : Reads r b r' b') : Reads req buf r' b' := by
  induction h with
  | refl req buf => exact h'
  | line hreads hi hgo hrest ih => exact .line hreads hi hgo (ih h')

/-- Lines that are read do not change the answer. -/
lemma Reads.tryDecode_eq (h : Reads req buf r b) : tryDecode req buf = tryDecode r b := by
  induction h with
  | refl req buf => rfl
  | line hreads hi hgo hrest ih => rw [tryDecode_line hreads hi, if_pos hgo, ih]

/-- Where no further line can be read, every way of reading the buffer ends. -/
lemma Reads.to_end (h : Reads req buf r b) (h' : Reads req buf r' b') (hend : findCRLF b' = none) :
    Reads r b r' b' := by
  induction h with
  | refl req buf => exact h'
  | line hreads hi hgo hrest ih =>
    cases h' with
    | refl => rw [hi] at hend; cases hend
    | line hreads' hi' hgo' hrest' =>
      rw [hi, Option.some.injEq] at hi'
      subst hi'
      exact ih hrest'

/-- Nothing is read from bytes without a line. -/
lemma Reads.eq_of_none (h : Reads req buf r b) (hnone : findCRLF buf = none) :
    r = req ∧ b = buf := by
  cases h with
  | refl => exact ⟨rfl, rfl⟩
  | line hreads hi hgo hrest => rw [hnone] at hi; cases hi

end

/-- A call that asks for more bytes has read lines only. -/
lemma reads_of_noRequest (req : HttpRequest) (buf : Bytes)
    (h : (tryDecode req buf).result = .ok .noRequest) :
    Reads req buf (tryDecode req buf).req (tryDecode req buf).buf := by
  induction req, buf using decode_induction with
  | getAll req buf hstate => rw [tryDecode_getAll hstate] at h; cases h
  | content req buf hstate =>
    rw [tryDecode_content hstate] at h ⊢
    split at h
    · rename_i hlen
      rw [if_pos hlen]
      exact .refl _ _
    · cases h
  | noLine req buf hreads hi => rw [tryDecode_noLine hreads hi]; exact .refl _ _
  | stop req buf i hreads hi hstop =>
    rw [tryDecode_line hreads hi, if_neg hstop] at h
    exact absurd h hstop
  | line req buf i hreads hi hgo ih =>
    rw [tryDecode_line hreads hi, if_pos hgo] at h ⊢
    exact .line hreads hi hgo (ih h)

/-- Where a call that asks for more bytes stops: inside a line without a line feed, or in front of a
body that is too short. -/
lemma noRequest_end (req : HttpRequest) (buf : Bytes)
    (h : (tryDecode req buf).result = .ok .noRequest) :
    (tryDecode req buf).req.ReadsLines ∧ findCRLF (tryDecode req buf).buf = none ∧
        LF ∉ (tryDecode req buf).buf ∨
      (tryDecode req buf).req.checkstate_ = .expectContent ∧
        (tryDecode req buf).buf.length < toSize (tryDecode req buf).req.contentLength_ := by
  induction req, buf using decode_induction with
  | getAll req buf hstate => rw [tryDecode_getAll hstate] at h; cases h
  | content req buf hstate =>
    rw [tryDecode_content hstate] at h ⊢
    split at h
    · rename_i hlen
      rw [if_pos hlen]
      exact Or.inr ⟨hstate, hlen⟩
    · cases h
  | noLine req buf hreads hi =>
    rw [tryDecode_noLine hreads hi] at h ⊢
    refine Or.inl ⟨hreads, hi, fun hlf => ?_⟩
    rw [if_pos hlf] at h
    cases h
  | stop req buf i hreads hi hstop =>
    rw [tryDecode_line hreads hi, if_neg hstop] at h
    exact absurd h hstop
  | line req buf i hreads hi hgo ih =>
    rw [tryDecode_line hreads hi, if_pos hgo] at h ⊢
    exact ih h

/-- The decoder waits for more bytes: every whole line in the buffer is accepted, and what is left
is the beginning of a line, without a line feed, or a body that is too short. -/
def Waits (req : HttpRequest) (buf : Bytes) : Prop :=
  ∃ r tail, Reads req buf r tail ∧
    (r.ReadsLines ∧ findCRLF tail = none ∧ LF ∉ tail ∨
      r.checkstate_ = .expectContent ∧ tail.length < toSize r.contentLength_)

/-- A call asks for more bytes iff the decoder waits. -/
theorem waits_iff (req : HttpRequest) (buf : Bytes) :
    Waits req buf ↔ (tryDecode req buf).result = .ok .noRequest := by
  constructor
  · intro h
    -- where the lines end, no line is complete, or the content is too short
    obtain ⟨r, tail, hreads, hend⟩ := h
    rw [hreads.tryDecode_eq]
    rcases hend with ⟨hstate, hi, hlf⟩ | ⟨hstate, hlen⟩
    · rw [tryDecode_noLine hstate hi, if_neg hlf]
    · rw [tryDecode_content hstate, if_pos hlen]
  · intro h
    -- the lines that this call has read
    exact ⟨_, _, reads_of_noRequest req buf h, noRequest_end req buf h⟩

/-! ## More bytes -/

/-- The whole lines of the buffer are read, and what is left of it is `tail`, the beginning of a
line that holds a bare line feed. -/
structure BareLF (req : HttpRequest) (buf : Bytes) (r : HttpRequest) (tail : Bytes) : Prop where
  reads : Reads req buf r tail
  state : r.ReadsLines
  open_ : findCRLF tail = none
  bare : LF ∈ tail

section
variable {req r : HttpRequest} {buf tail : Bytes}

lemma BareLF.answer (h : BareLF req buf r tail) :
    tryDecode req buf = ⟨.ok .badRequest, r, tail⟩ := by
  rw [h.reads.tryDecode_eq, tryDecode_noLine h.state h.open_, if_pos h.bare]

/-- Bytes that are added at the end are looked at only if the call waits for them, unless it gave
a line up for a bare line feed. -/
theorem tryDecode_append (req : HttpRequest) (buf t : Bytes)
    (hbare : ∀ r tail, ¬BareLF req buf r tail) :
    tryDecode req (buf ++ t) =
      if (tryDecode req buf).result = .ok .noRequest then
        tryDecode (tryDecode req buf).req ((tryDecode req buf).buf ++ t)
      else ⟨(tryDecode req buf).result, (tryDecode req buf).req, (tryDecode req buf).buf ++ t⟩ := by
  induction req, buf using decode_induction with
  | getAll req buf hstate => rw [tryDecode_getAll hstate, tryDecode_getAll hstate]; rfl
  | content req buf hstate =>
    have hcall := @tryDecode_content req buf hstate
    rw [hcall]
    by_cases hlen : buf.length < toSize req.contentLength_
    · rw [if_pos hlen, if_pos rfl]
    · -- the body is complete already
      have hle : toSize req.contentLength_ ≤ buf.length := by omega
      rw [if_neg hlen, if_neg (by simp), tryDecode_content hstate,
        if_neg (by rw [List.length_append]; omega), List.take_append_of_le_length hle,
        List.drop_append_of_le_length hle]
  | noLine req buf hreads hi =>
    have hlf : LF ∉ buf := fun hlf => hbare req buf ⟨.refl _ _, hreads, hi, hlf⟩
    rw [tryDecode_noLine hreads hi, if_neg hlf, if_pos rfl]
  | stop req buf i hreads hi hstop =>
    rw [tryDecode_line hreads hi, if_neg hstop, if_neg hstop,
      tryDecode_line hreads (Separator.findPair_append hi t), take_append_of_find hi,
      if_neg hstop, drop_append_of_find hi]
  | line req buf i hreads hi hgo ih =>
    rw [tryDecode_line hreads hi, if_pos hgo,
      tryDecode_line hreads (Separator.findPair_append hi t), take_append_of_find hi,
      if_pos hgo, drop_append_of_find hi]
    exact ih fun r tail h => hbare r tail ⟨.line hreads hi hgo h.reads, h.state, h.open_, h.bare⟩

/-- A bare line feed is reached through bytes added at the end only if the call on the bytes
before them waits or was stopped by one. -/
lemma BareLF.of_append {t : Bytes} (h : BareLF req (buf ++ t) r tail) :
    (tryDecode req buf).result = .ok .noRequest ∨ ∃ r tail, BareLF req buf r tail := by
  -- where no lines are read, there is none to be stopped in
  have hend : ∀ {req : HttpRequest} {buf : Bytes}, ¬req.ReadsLines → ¬BareLF req buf r tail := by
    intro req buf hreads h
    cases h.reads with
    | refl => exact hreads h.state
    | line hreads' => exact hreads hreads'
  induction req, buf using decode_induction with
  | getAll req buf hstate => exact absurd h (hend (by simp [ReadsLines, hstate]))
  | content req buf hstate => exact absurd h (hend (by simp [ReadsLines, hstate]))
  | noLine req buf hreads hi =>
    by_cases hlf : LF ∈ buf
    · exact Or.inr ⟨req, buf, .refl _ _, hreads, hi, hlf⟩
    · left
      rw [tryDecode_noLine hreads hi, if_neg hlf]
  | stop req buf i hreads hi hstop =>
    have hi' := Separator.findPair_append hi t
    cases h.reads with
    | refl => exact absurd h.open_ (by rw [findCRLF, hi']; simp)
    | line _ hi'' hgo =>
      rw [findCRLF, hi', Option.some.injEq] at hi''
      subst hi''
      rw [take_append_of_find hi] at hgo
      exact absurd hgo hstop
  | line req buf i hreads hi hgo ih =>
    have hi' := Separator.findPair_append hi t
    -- the line is read in both calls
    have hstep : Reads req (buf ++ t) (readLine req (buf.take i)).2 (buf.drop (i + 2) ++ t) :=
      (Reads.line hreads hi hgo (.refl _ _)).append t
    rw [tryDecode_line hreads hi, if_pos hgo]
    rcases ih ⟨hstep.to_end h.reads h.open_, h.state, h.open_, h.bare⟩ with hwait | ⟨r, tail, hb⟩
    · exact Or.inl hwait
    · exact Or.inr ⟨r, tail, .line hreads hi hgo hb.reads, hb.state, hb.open_, hb.bare⟩

end

/-! ## The chunks of a byte string -/

/-- The chunks are appended one at a time, each followed by a call, up to the first answer other
than `NO_REQUEST`; the chunks not fed by then are put back at the end. -/
def feed (req : HttpRequest) (buf : Bytes) : List Bytes → Decoded
  | [] => ⟨.ok .noRequest, req, buf⟩
  | chunk :: chunks =>
    let d := tryDecode req (buf ++ chunk)
    if d.result = .ok .noRequest then feed d.req d.buf chunks
    else ⟨d.result, d.req, d.buf ++ chunks.flatten⟩

/-- The bytes so far end in a line with a bare line feed, and the bytes to come end that line. -/
def Cuts (req : HttpRequest) (fed rest : Bytes) : Prop :=
  ∃ r tail, BareLF req fed r tail ∧ (findCRLF (tail ++ rest)).isSome

lemma tryDecode_length (req : HttpRequest) (buf : Bytes) :
    (tryDecode req buf).buf.length ≤ buf.length := by
  induction req, buf using decode_induction with
  | getAll req buf hstate => rw [tryDecode_getAll hstate]
  | content req buf hstate =>
    rw [tryDecode_content hstate]
    split
    · exact le_rfl
    · rw [List.length_drop]
      omega
  | noLine req buf hreads hi => rw [tryDecode_noLine hreads hi]
  | stop req buf i hreads hi hstop =>
    rw [tryDecode_line hreads hi, if_neg hstop, List.length_drop]
    omega
  | line req buf i hreads hi hgo ih =>
    rw [tryDecode_line hreads hi, if_pos hgo]
    rw [List.length_drop] at ih
    omega

/-- A call that asks for more bytes would ask again. -/
lemma tryDecode_waits {req : HttpRequest} {buf : Bytes}
    (h : (tryDecode req buf).result = .ok .noRequest) :
    tryDecode (tryDecode req buf).req (tryDecode req buf).buf =
      ⟨.ok .noRequest, (tryDecode req buf).req, (tryDecode req buf).buf⟩ := by
  rw [← (reads_of_noRequest req buf h).tryDecode_eq, ← h]

section
variable {req r : HttpRequest} {buf tail : Bytes}

/-- Lines that have been read do not change what is cut. -/
lemma Reads.cuts_iff {b t rest : Bytes} (h : Reads req buf r b) :
    Cuts req (buf ++ t) rest ↔ Cuts r (b ++ t) rest := by
  constructor
  · rintro ⟨r', tail, hb, hcut⟩
    exact ⟨r', tail, ⟨(h.append t).to_end hb.reads hb.open_, hb.state, hb.open_, hb.bare⟩, hcut⟩
  · rintro ⟨r', tail, hb, hcut⟩
    exact ⟨r', tail, ⟨(h.append t).trans hb.reads, hb.state, hb.open_, hb.bare⟩, hcut⟩

/-- Nothing is cut where the decoder waits. -/
lemma not_cuts_of_waits {rest : Bytes} (h : (tryDecode req buf).result = .ok .noRequest) :
    ¬Cuts req buf rest := by
  rintro ⟨r, tail, hb, -⟩
  rw [hb.answer] at h
  cases h

/-- A line given up for a bare line feed changes the answer iff the bytes to come end it. -/
lemma BareLF.same_iff {rest : Bytes} (h : BareLF req buf r tail) :
    (⟨.ok .badRequest, r, tail ++ rest⟩ : Decoded) = tryDecode req (buf ++ rest) ↔
      findCRLF (tail ++ rest) = none := by
  rw [(h.reads.append rest).tryDecode_eq]
  constructor
  · intro hsame
    cases hi : findCRLF (tail ++ rest) with
    | none => rfl
    | some i =>
      -- the call on all bytes reads at least one line more
      have hlen := Separator.findPair_le hi
      have hread : (tryDecode r (tail ++ rest)).buf.length < (tail ++ rest).length := by
        rw [tryDecode_line h.state hi]
        split
        · have := tryDecode_length (readLine r ((tail ++ rest).take i)).2 ((tail ++ rest).drop (i + 2))
          rw [List.length_drop] at this
          omega
        · rw [List.length_drop]
          omega
      rw [← hsame] at hread
      exact absurd hread (lt_irrefl _)
  · intro hi
    rw [tryDecode_noLine h.state hi, if_pos (List.mem_append_left rest h.bare)]

end

/-- Feeding a decoder that waits agrees with one call on all bytes iff no boundary between two
chunks is a cut. -/
lemma feed_eq_iff_not_cuts (chunks : List Bytes) :
    ∀ {req : HttpRequest} {buf : Bytes}, tryDecode req buf = ⟨.ok .noRequest, req, buf⟩ →
      (feed req buf chunks = tryDecode req (buf ++ chunks.flatten) ↔
        ∀ pre suf, chunks = pre ++ suf → ¬Cuts req (buf ++ pre.flatten) suf.flatten) := by
  induction chunks with
  | nil =>
    intro req buf hwait
    have hbuf : buf ++ ([] : List Bytes).flatten = buf := List.append_nil buf
    rw [hbuf, hwait]
    refine ⟨fun _ pre suf hsplit => ?_, fun _ => rfl⟩
    obtain ⟨rfl, rfl⟩ := List.append_eq_nil_iff.mp hsplit.symm
    rw [hbuf]
    exact not_cuts_of_waits (by rw [hwait])
  | cons chunk chunks ih =>
    intro req buf hwait
    have hfirst : ¬Cuts req (buf ++ ([] : List Bytes).flatten) (chunk :: chunks).flatten := by
      rw [List.flatten_nil, List.append_nil]
      exact not_cuts_of_waits (by rw [hwait])
    -- the first boundary is no cut, so the others decide
    have hsplits : (∀ pre suf, chunk :: chunks = pre ++ suf →
          ¬Cuts req (buf ++ pre.flatten) suf.flatten) ↔
        ∀ pre suf, chunks = pre ++ suf → ¬Cuts req (buf ++ chunk ++ pre.flatten) suf.flatten := by
      constructor
      · intro h pre suf hsplit
        have := h (chunk :: pre) suf (by rw [hsplit, List.cons_append])
        rwa [List.flatten_cons, ← List.append_assoc] at this
      · intro h pre suf hsplit
        cases pre with
        | nil => rw [List.nil_append] at hsplit; rw [← hsplit]; exact hfirst
        | cons c pre =>
          rw [List.cons_append, List.cons.injEq] at hsplit
          obtain ⟨rfl, hsplit⟩ := hsplit
          rw [List.flatten_cons, ← List.append_assoc]
          exact h pre suf hsplit
    rw [hsplits, List.flatten_cons, ← List.append_assoc, feed]
    by_cases hmore : (tryDecode req (buf ++ chunk)).result = .ok .noRequest
    · have hreads := reads_of_noRequest req (buf ++ chunk) hmore
      simp only [if_pos hmore]
      rw [(hreads.append chunks.flatten).tryDecode_eq, ih (tryDecode_waits hmore)]
      simp only [hreads.cuts_iff]
    · simp only [if_neg hmore]
      by_cases hbare : ∃ r tail, BareLF req (buf ++ chunk) r tail
      · obtain ⟨r, tail, hb⟩ := hbare
        rw [hb.answer]
        simp only
        rw [hb.same_iff]
        constructor
        · rintro hnone pre suf rfl ⟨r', tail', hb', hcut⟩
          rw [List.flatten_append, ← List.append_assoc] at hnone
          obtain ⟨rfl, rfl⟩ := ((hb.reads.append pre.flatten).to_end hb'.reads hb'.open_).eq_of_none
            (Separator.findPair_none_of_append hnone)
          rw [hnone] at hcut
          cases hcut
        · intro h
          by_contra hsome
          refine h [] chunks rfl ⟨r, tail, ?_, Option.ne_none_iff_isSome.mp hsome⟩
          rw [List.flatten_nil, List.append_nil]
          exact hb
      · have hno : ∀ r tail, ¬BareLF req (buf ++ chunk) r tail :=
          fun r tail hb => hbare ⟨r, tail, hb⟩
        rw [tryDecode_append req (buf ++ chunk) chunks.flatten hno, if_neg hmore]
        refine ⟨fun _ pre suf _ => ?_, fun _ => rfl⟩
        rintro ⟨r, tail, hb, -⟩
        rcases hb.of_append with hwait' | hbare'
        · exact hmore hwait'
        · exact hbare hbare'

/-! ## The cuts of a request from its first byte on -/

/-- The lines leave a cleared request inside its head: an accepted request line, then header
lines that are neither blank nor refused. -/
def HeadOpen : List Bytes → Prop
  | [] => True
  | line :: lines => RequestLineOk line ∧ ∀ h ∈ lines, h ≠ [] ∧ HeaderLineOk h

instance : (lines : List Bytes) → Decidable (HeadOpen lines)
  | [] => isTrue trivial
  | line :: lines =>
    inferInstanceAs (Decidable (RequestLineOk line ∧ ∀ h ∈ lines, h ≠ [] ∧ HeaderLineOk h))

/-- A boundary between two chunks inside a line of the head, behind a bare line feed. -/
def CutsBareLF (fed rest : Bytes) : Prop :=
  HeadOpen (Separator.splitLines CR LF fed).1 ∧
    LF ∈ (Separator.splitLines CR LF fed).2 ∧
    (findCRLF ((Separator.splitLines CR LF fed).2 ++ rest)).isSome

lemma bareLF_of_none {req r : HttpRequest} {buf tail : Bytes} (hreads : req.ReadsLines)
    (hi : findCRLF buf = none) :
    BareLF req buf r tail ↔ r = req ∧ tail = buf ∧ LF ∈ buf := by
  constructor
  · intro h
    obtain ⟨rfl, rfl⟩ := h.reads.eq_of_none hi
    exact ⟨rfl, rfl, h.bare⟩
  · rintro ⟨rfl, rfl, hlf⟩
    exact ⟨.refl _ _, hreads, hi, hlf⟩

lemma bareLF_of_some {req r : HttpRequest} {buf tail : Bytes} {i : ℕ} (hreads : req.ReadsLines)
    (hi : findCRLF buf = some i) :
    BareLF req buf r tail ↔ (readLine req (buf.take i)).1 = .ok .noRequest ∧
      BareLF (readLine req (buf.take i)).2 (buf.drop (i + 2)) r tail := by
  constructor
  · intro h
    cases h.reads with
    | refl => exact absurd h.open_ (by rw [hi]; simp)
    | line _ hi' hgo hrest =>
      rw [hi, Option.some.injEq] at hi'
      subst hi'
      exact ⟨hgo, hrest, h.state, h.open_, h.bare⟩
  · rintro ⟨hgo, h⟩
    exact ⟨.line hreads hi hgo h.reads, h.state, h.open_, h.bare⟩

/-- Inside the head, the lines that are read are those before the first blank or refused one. -/
lemma exists_bareLF_header (req : HttpRequest) (buf : Bytes) (tail : Bytes)
    (hstate : req.checkstate_ = .expectHeader) :
    (∃ r, BareLF req buf r tail) ↔
      (∀ h ∈ (Separator.splitLines CR LF buf).1, h ≠ [] ∧ HeaderLineOk h) ∧
        tail = (Separator.splitLines CR LF buf).2 ∧ LF ∈ tail := by
  have hreads : req.ReadsLines := Or.inr hstate
  have hline : ∀ l, readLine req l = headerLine req l := fun l => by simp [readLine, hstate]
  induction hn : buf.length using Nat.strong_induction_on generalizing req buf with
  | _ n ih =>
    subst hn
    cases hi : findCRLF buf with
    | none =>
      simp only [bareLF_of_none hreads hi, Separator.splitLines_none hi, exists_eq_left,
        List.not_mem_nil, false_imp_iff, implies_true, true_and]
      constructor
      · rintro ⟨rfl, hlf⟩; exact ⟨rfl, hlf⟩
      · rintro ⟨rfl, hlf⟩; exact ⟨rfl, hlf⟩
    | some i =>
      have hlen := Separator.findPair_le hi
      simp only [bareLF_of_some hreads hi, hline, Separator.splitLines_some hi, exists_and_left,
        List.forall_mem_cons]
      by_cases hnil : buf.take i = []
      · -- a blank line ends the head, so no line is open behind it
        simp only [hnil, ne_eq, not_true_eq_false, false_and, iff_false, not_and, not_exists]
        intro hgo r hb
        have hcontent : (headerLine req []).2.checkstate_ = .expectContent := by
          rw [headerLine, if_pos rfl] at hgo ⊢
          split at hgo
          · rename_i hbody
            rw [if_pos hbody]
          · cases hgo
        cases hb.reads with
        | refl => exact absurd hb.state (by simp [ReadsLines, hcontent])
        | line hreads' => exact absurd hreads' (by simp [ReadsLines, hcontent])
      · rw [headerLine_accepts hnil]
        have hnext : (headerLine req (buf.take i)).2.checkstate_ = .expectHeader := by
          rw [headerLine_state hnil, hstate]
        have hshort : (buf.drop (i + 2)).length < buf.length := by
          rw [List.length_drop]; omega
        have hrest := ih _ hshort _ _ hnext (Or.inr hnext) (fun l => by simp [readLine, hnext]) rfl
        simp only [hrest, ne_eq, hnil, not_false_eq_true, true_and, and_assoc]

/-- A cleared request is cut where its head is open and a line feed stands bare. -/
lemma cuts_clear_iff (req : HttpRequest) (fed rest : Bytes) :
    Cuts req.clear fed rest ↔ CutsBareLF fed rest := by
  have hreads : req.clear.ReadsLines := Or.inl rfl
  have hcut : Cuts req.clear fed rest ↔
      ∃ tail, (∃ r, BareLF req.clear fed r tail) ∧ (findCRLF (tail ++ rest)).isSome := by
    constructor
    · rintro ⟨r, tail, hb, hcut⟩; exact ⟨tail, ⟨r, hb⟩, hcut⟩
    · rintro ⟨tail, ⟨r, hb⟩, hcut⟩; exact ⟨r, tail, hb, hcut⟩
  have htail : ∀ tail, (∃ r, BareLF req.clear fed r tail) ↔
      HeadOpen (Separator.splitLines CR LF fed).1 ∧
        tail = (Separator.splitLines CR LF fed).2 ∧ LF ∈ tail := by
    intro tail
    cases hi : findCRLF fed with
    | none =>
      simp only [bareLF_of_none hreads hi, Separator.splitLines_none hi, exists_eq_left, HeadOpen,
        true_and]
      constructor
      · rintro ⟨rfl, hlf⟩; exact ⟨rfl, hlf⟩
      · rintro ⟨rfl, hlf⟩; exact ⟨rfl, hlf⟩
    | some i =>
      have hline : readLine req.clear (fed.take i) =
          (.ok (requestLine req.clear (fed.take i)).1, (requestLine req.clear (fed.take i)).2) :=
        rfl
      simp only [bareLF_of_some hreads hi, hline, Except.ok.injEq, requestLine_accepts,
        exists_and_left, Separator.splitLines_some hi, HeadOpen, and_assoc]
      -- the request line is read, and header lines follow
      refine and_congr_right fun hok => ?_
      exact exists_bareLF_header _ _ _ (requestLine_state hok)
  rw [hcut, CutsBareLF]
  simp only [htail]
  constructor
  · rintro ⟨tail, ⟨hopen, rfl, hlf⟩, hcut⟩; exact ⟨hopen, hlf, hcut⟩
  · rintro ⟨hopen, hlf, hcut⟩; exact ⟨_, ⟨hopen, rfl, hlf⟩, hcut⟩

/-- A cleared request waits for its first byte. -/
lemma tryDecode_clear_nil (req : HttpRequest) :
    tryDecode req.clear [] = ⟨.ok .noRequest, req.clear, []⟩ := by
  rw [tryDecode_noLine (Or.inl rfl) rfl, if_neg List.not_mem_nil]

/-- **Chunked decoding.** Feeding a cleared request chunk by chunk gives the result, the request
and the unread bytes of one call on all of them iff no chunk ends inside a line of the head behind
a bare line feed. -/
theorem feed_eq_tryDecode_iff (req : HttpRequest) (chunks : List Bytes) :
    feed req.clear [] chunks = tryDecode req.clear chunks.flatten ↔
      ∀ pre suf, chunks = pre ++ suf → ¬CutsBareLF pre.flatten suf.flatten := by
  have h := feed_eq_iff_not_cuts chunks (tryDecode_clear_nil req)
  simp only [List.nil_append, cuts_clear_iff] at h
  exact h

/-- A request line with a bare line feed in it, split behind that line feed. -/
theorem feed_ne_tryDecode :
    ¬∀ (req : HttpRequest) (chunks : List Bytes),
      feed req.clear [] chunks = tryDecode req.clear chunks.flatten := by
  intro h
  have := h {} [lit "GET /\n", lit " HTTP/1.1\r\n\r\n"]
  revert this
  decide

end HttpRequest
end Miniduo
