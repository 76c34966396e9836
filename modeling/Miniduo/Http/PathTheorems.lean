import Miniduo.Http.ChunkTheorems
import Miniduo.Http.HttpServer
import Miniduo.Lib.LexicalPath

/-!
# The file that a request reaches

The path handed to `stat` and `open` is the resource path followed by the decoded target. The
target starts with a slash, so the segments of the two come one after the other, and whether the
file lies under the resource directory is a matter of the target's `..` segments.
-/

namespace Miniduo

namespace HttpRequest

/-! ## Every target starts with a slash -/

/-- Once the request line is read, the target starts with a slash. -/
def Targeted (req : HttpRequest) : Prop :=
  req.checkstate_ ≠ .expectRequestline → req.URL_.head? = some 47

lemma targeted_clear (req : HttpRequest) : req.clear.Targeted := fun h => absurd rfl h

/-- What is left from the first slash on starts with it. -/
lemma head?_drop_idxOf? {s : Bytes} {c : Byte} {idx : ℕ} (h : s.idxOf? c = some idx) :
    (s.drop idx).head? = some c := by
  rw [List.idxOf?, List.findIdx?_eq_some_iff_getElem] at h
  obtain ⟨hlt, hc, -⟩ := h
  rw [List.head?_drop, List.getElem?_eq_getElem hlt]
  simpa using hc

lemma setTarget_URL {req : HttpRequest} {URL : Bytes} (h : URL.head? = some 47) :
    (setTarget req URL).URL_.head? = some 47 := by
  rw [setTarget]
  split
  · rename_i idx hidx
    -- the `?` comes behind the slash
    have hpos : idx ≠ 0 := by
      rintro rfl
      have hquery := head?_drop_idxOf? hidx
      rw [List.drop_zero, h] at hquery
      simp at hquery
    rw [List.head?_take, if_neg hpos, h]
  · exact h

lemma requestLine_targeted {req : HttpRequest} (line : Bytes)
    (hstate : req.checkstate_ = .expectRequestline) : (requestLine req line).2.Targeted := by
  simp only [requestLine]
  split
  · exact fun h => absurd hstate h
  · split
    · exact fun h => absurd hstate h
    · rename_i idx hidx
      split
      · intro h
        apply absurd _ h
        rw [setTarget_state]
        exact hstate
      · intro _
        exact setTarget_URL (head?_drop_idxOf? hidx)

lemma headerLine_URL (req : HttpRequest) (line : Bytes) :
    (headerLine req line).2.URL_ = req.URL_ := by
  simp only [headerLine]
  split
  · split <;> rfl
  · split
    · rfl
    · split
      · split
        · split <;> rfl
        · rfl
      · rfl

lemma readLine_targeted {req : HttpRequest} (line : Bytes) (h : req.Targeted) :
    (readLine req line).2.Targeted := by
  rw [readLine]
  split
  · rename_i hstate
    exact requestLine_targeted line hstate
  · rename_i hstate
    intro _
    rw [headerLine_URL]
    exact h hstate

theorem tryDecode_targeted (req : HttpRequest) (buf : Bytes) (h : req.Targeted) :
    (tryDecode req buf).req.Targeted := by
  induction req, buf using decode_induction with
  | getAll req buf hstate => rwa [tryDecode_getAll hstate]
  | content req buf hstate =>
    rw [tryDecode_content hstate]
    split
    · exact h
    · intro _
      apply h
      rw [hstate]
      decide
  | noLine req buf hreads hi => rwa [tryDecode_noLine hreads hi]
  | stop req buf i hreads hi hstop =>
    rw [tryDecode_line hreads hi, if_neg hstop]
    exact readLine_targeted _ h
  | line req buf i hreads hi hgo ih =>
    rw [tryDecode_line hreads hi, if_pos hgo]
    exact ih (readLine_targeted _ h)

/-- The target of a request accepted chunk by chunk starts with a slash. -/
theorem feed_target (chunks : List Bytes) : ∀ {req : HttpRequest} {buf : Bytes}, req.Targeted →
    (feed req buf chunks).result = .ok .getRequest →
      (feed req buf chunks).req.URL_.head? = some 47 := by
  induction chunks with
  | nil =>
    intro req buf _ h
    cases h
  | cons chunk chunks ih =>
    intro req buf htargeted h
    have hafter := tryDecode_targeted req (buf ++ chunk) htargeted
    rw [feed] at h ⊢
    -- the decoder waits for the next chunk, or has answered
    split at h
    · rename_i hwait
      simp only [if_pos hwait]
      exact ih hafter h
    · rename_i hwait
      simp only [if_neg hwait]
      apply hafter
      rw [tryDecode_getRequest h]
      decide

end HttpRequest

/-! ## The place of the file -/

namespace HttpServer

open LexicalPath HttpRequest

/-- What `resourcePath_` followed by a target names. -/
def namedPlace (resourcePath_ URL_ : Bytes) : Place Bytes :=
  resolve 47 46 (cString (resourcePath_ ++ URL_))

/-- The resource directory is what the target `/` names. -/
def resourceDir (resourcePath_ : Bytes) : Place Bytes := namedPlace resourcePath_ [47]

/-- The target does not leave the resource directory, or comes back to it. A resource path with a
zero byte hides the whole target. -/
def StaysBelow (resourcePath_ URL_ : Bytes) : Prop :=
  0 ∈ resourcePath_ ∨
    (resourceDir resourcePath_).Returns (Place.origin.walk (segments 47 46 (cString URL_)))

instance (resourcePath_ URL_ : Bytes) : Decidable (StaysBelow resourcePath_ URL_) := by
  unfold StaysBelow
  infer_instance

lemma namedPlace_of_notMem {resourcePath_ URL_ : Bytes} (hres : 0 ∉ resourcePath_)
    (hslash : URL_.head? = some 47) :
    namedPlace resourcePath_ URL_
      = (resourceDir resourcePath_).walk (segments 47 46 (cString URL_)) := by
  obtain ⟨rest, rfl⟩ : ∃ rest, URL_ = 47 :: rest := by
    cases URL_ with
    | nil => cases hslash
    | cons c rest => exact ⟨rest, by simpa using hslash⟩
  have hrest : cString (47 :: rest) = 47 :: cString rest := by
    rw [cString, List.takeWhile_cons_of_pos (by decide)]
    rfl
  have hnil : cString [47] = [47] := by decide
  rw [resourceDir, namedPlace, namedPlace, cString_append_of_notMem hres,
    cString_append_of_notMem hres, hrest, hnil, resolve_append_cons]

lemma namedPlace_of_mem {resourcePath_ : Bytes} (hres : 0 ∈ resourcePath_) (URL_ : Bytes) :
    namedPlace resourcePath_ URL_ = resourceDir resourcePath_ := by
  rw [resourceDir, namedPlace, namedPlace, cString_append_of_mem hres, cString_append_of_mem hres]

/-- A target that starts with a slash reaches a place under the resource directory iff its `..`
segments stay in it or come back to it. -/
theorem under_resourceDir_iff {resourcePath_ URL_ : Bytes} (hslash : URL_.head? = some 47) :
    (resourceDir resourcePath_).Under (namedPlace resourcePath_ URL_)
      ↔ StaysBelow resourcePath_ URL_ := by
  by_cases hres : 0 ∈ resourcePath_
  · rw [namedPlace_of_mem hres]
    exact iff_of_true (Place.under_refl _) (Or.inl hres)
  · rw [namedPlace_of_notMem hres hslash, Place.walk_eq_follow, Place.under_follow_iff, StaysBelow,
      or_iff_right hres]

/-- **Served files.** A file that is served for a request, received in any chunks, lies under the
resource directory iff the target's `..` segments do not leave it for good. -/
theorem served_under_iff (resourcePath_ : Bytes) (fs : FileSystem) (req : HttpRequest)
    (chunks : List Bytes) (hget : (feed req.clear [] chunks).result = .ok .getRequest) :
    handleRequest resourcePath_ fs (feed req.clear [] chunks).req = .fileRequest →
      ((resourceDir resourcePath_).Under
          (namedPlace resourcePath_ (feed req.clear [] chunks).req.URL_)
        ↔ StaysBelow resourcePath_ (feed req.clear [] chunks).req.URL_) := by
  intro _
  apply under_resourceDir_iff
  exact feed_target chunks (targeted_clear req) hget

/-- A file system with one readable file. -/
def oneFile (path : Bytes) : FileSystem where
  stat p := if p = path then some ⟨true, false⟩ else none
  openFile p := if p = path then 5 else -1
  size _ := 9
  readFile _ := some (lit "root:x:0\n")

theorem served_under_index :
    (resourceDir (lit "/srv/www")).Under (namedPlace (lit "/srv/www")
        (feed {} [] [lit "GET /a/../index.html ", lit "HTTP/1.1\r\n\r\n"]).req.URL_) := by
  apply (served_under_iff (lit "/srv/www") (oneFile (lit "/srv/www/a/../index.html")) {}
    [lit "GET /a/../index.html ", lit "HTTP/1.1\r\n\r\n"] (by decide +kernel)
    (by decide +kernel)).mpr
  decide +kernel

/-- Two levels up from `/srv/www` is the root. -/
theorem not_served_under :
    ¬∀ (resourcePath_ : Bytes) (fs : FileSystem) (req : HttpRequest) (chunks : List Bytes),
      (feed req.clear [] chunks).result = .ok .getRequest →
      handleRequest resourcePath_ fs (feed req.clear [] chunks).req = .fileRequest →
        (resourceDir resourcePath_).Under
          (namedPlace resourcePath_ (feed req.clear [] chunks).req.URL_) := by
  intro h
  have := h (lit "/srv/www") (oneFile (lit "/srv/www/../../etc/passwd")) {}
    [lit "GET /../../etc/passwd HTTP/1.1\r\n\r\n"] (by decide +kernel) (by decide +kernel)
  revert this
  decide +kernel

end HttpServer
end Miniduo
