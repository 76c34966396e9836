import Mathlib.Data.List.Basic
import Mathlib.Data.List.Infix

/-!
# Lexical paths

A path is resolved without looking at the file system: a segment stays, goes up or names an
entry, and a place is what is left after the `..` segments have cancelled the names before them.

* `Place.walk` follows segments from a place, and `Place.walk_eq_follow` says that only the place
  reached from the origin matters: so many levels up, then some names;
* `Place.under_follow_iff` decides from these two whether the walk ends under its start.
-/

namespace LexicalPath

inductive Segment (α : Type*)
  | stay
  | up
  | name (a : α)
deriving DecidableEq

/-- A resolved path: `ups` segments `..` that nothing cancels, followed by names. -/
structure Place (α : Type*) where
  absolute : Bool
  ups : ℕ
  names : List α
deriving DecidableEq

namespace Place

variable {α : Type*}

/-- Where an empty relative path leads. -/
def origin : Place α := ⟨false, 0, []⟩

/-- One segment. The root is its own parent. -/
def go (p : Place α) : Segment α → Place α
  | .stay => p
  | .up =>
    if p.names ≠ [] then { p with names := p.names.dropLast }
    else if p.absolute then p
    else { p with ups := p.ups + 1 }
  | .name a => { p with names := p.names ++ [a] }

def walk (p : Place α) (segs : List (Segment α)) : Place α := segs.foldl go p

/-- The place that `r`, read as a relative path, names from `p`. -/
def follow (p r : Place α) : Place α where
  absolute := p.absolute
  ups := if p.absolute then p.ups else p.ups + (r.ups - p.names.length)
  names := p.names.take (p.names.length - r.ups) ++ r.names

/-- `q` is `p` or an entry below it. -/
def Under (p q : Place α) : Prop :=
  q.absolute = p.absolute ∧ q.ups = p.ups ∧ p.names <+: q.names

/-- The way `r` comes back to every level it leaves: it does not climb beyond the names of `p`,
unless they start at the root, and the names it climbs over are the first that it gives. -/
def Returns (p r : Place α) : Prop :=
  (p.absolute = true ∨ r.ups ≤ p.names.length) ∧ p.names.drop (p.names.length - r.ups) <+: r.names

instance [DecidableEq α] (p q : Place α) : Decidable (Under p q) := by
  unfold Under
  infer_instance

instance [DecidableEq α] (p r : Place α) : Decidable (Returns p r) := by
  unfold Returns
  infer_instance

@[simp] lemma walk_nil (p : Place α) : p.walk [] = p := rfl

@[simp] lemma walk_append (p : Place α) (segs segs' : List (Segment α)) :
    p.walk (segs ++ segs') = (p.walk segs).walk segs' :=
  List.foldl_append

@[simp] lemma walk_singleton (p : Place α) (seg : Segment α) : p.walk [seg] = p.go seg := rfl

@[simp] lemma go_absolute (p : Place α) (seg : Segment α) : (p.go seg).absolute = p.absolute := by
  cases seg with
  | stay => rfl
  | up =>
    simp only [go]
    split_ifs <;> rfl
  | name a => rfl

lemma walk_absolute (p : Place α) (segs : List (Segment α)) :
    (p.walk segs).absolute = p.absolute := by
  induction segs using List.reverseRecOn with
  | nil => rfl
  | append_singleton segs seg ih => rw [walk_append, walk_singleton, go_absolute, ih]

lemma under_refl (p : Place α) : p.Under p := ⟨rfl, rfl, List.prefix_rfl⟩

lemma follow_origin (p : Place α) : p.follow origin = p := by
  cases p
  simp [follow, origin]

/-- A segment may be taken before or after the relative path is followed. -/
lemma go_follow (p r : Place α) (hr : r.absolute = false) (seg : Segment α) :
    (p.follow r).go seg = p.follow (r.go seg) := by
  cases seg with
  | stay => rfl
  | name a => simp [go, follow]
  | up =>
    by_cases hnames : r.names = []
    · -- the way up cancels a name of `p`, or leaves it
      have hgo : r.go .up = { r with ups := r.ups + 1 } := by simp [go, hnames, hr]
      rw [hgo]
      by_cases hlen : p.names.length ≤ r.ups
      · have htake : p.names.take (p.names.length - r.ups) = [] := by
          rw [Nat.sub_eq_zero_of_le hlen, List.take_zero]
        have htake' : p.names.take (p.names.length - (r.ups + 1)) = [] := by
          rw [Nat.sub_eq_zero_of_le (by omega), List.take_zero]
        simp only [go, follow, hnames, htake, htake', List.append_nil, ne_eq, not_true, if_false]
        split
        · rfl
        · congr 1
          omega
      · have hne : p.names.take (p.names.length - r.ups) ≠ [] := by
          intro h
          rw [List.take_eq_nil_iff] at h
          rcases h with h | h
          · omega
          · rw [h, List.length_nil] at hlen
            omega
        have hlast : (p.names.take (p.names.length - r.ups)).dropLast
            = p.names.take (p.names.length - (r.ups + 1)) := by
          rw [List.dropLast_eq_take, List.take_take, List.length_take]
          congr 1
          omega
        simp only [go, follow, hnames, List.append_nil, ne_eq, hne, not_false_eq_true, if_true,
          hlast]
        congr 2
        omega
    · -- the way up cancels a name of the relative path
      have hgo : r.go .up = { r with names := r.names.dropLast } := by simp [go, hnames]
      rw [hgo]
      simp only [go, follow, ne_eq, List.append_eq_nil_iff, hnames, and_false, not_false_eq_true,
        if_true, List.dropLast_append_of_ne_nil hnames]

theorem walk_eq_follow (p : Place α) (segs : List (Segment α)) :
    p.walk segs = p.follow (origin.walk segs) := by
  induction segs using List.reverseRecOn with
  | nil => exact (follow_origin p).symm
  | append_singleton segs seg ih =>
    rw [walk_append, walk_singleton, ih, walk_append, walk_singleton,
      go_follow p _ (walk_absolute origin segs)]

/-- Following a relative path ends under its start iff the path returns. -/
theorem under_follow_iff (p r : Place α) : p.Under (p.follow r) ↔ p.Returns r := by
  have hnames : p.names <+: p.names.take (p.names.length - r.ups) ++ r.names
      ↔ p.names.drop (p.names.length - r.ups) <+: r.names := by
    conv_lhs => lhs; rw [← List.take_append_drop (p.names.length - r.ups) p.names]
    exact List.prefix_append_right_inj _
  have hups : (p.follow r).ups = p.ups ↔ p.absolute = true ∨ r.ups ≤ p.names.length := by
    cases h : p.absolute with
    | true => simp [follow, h]
    | false =>
      simp only [follow, h, Bool.false_eq_true, if_false, false_or]
      omega
  simp only [Under, Returns, hups]
  simp only [follow, hnames, true_and]

end Place

/-! ## The segments of a path -/

section
variable {α : Type*} [DecidableEq α] (sep dot : α)

/-- What a part between two separators means. -/
def segment (part : List α) : Segment (List α) :=
  if part = [] ∨ part = [dot] then .stay
  else if part = [dot, dot] then .up
  else .name part

def segments (path : List α) : List (Segment (List α)) := (path.splitOn sep).map (segment dot)

/-- The place that a path names. -/
def resolve (path : List α) : Place (List α) :=
  Place.walk ⟨decide (path.head? = some sep), 0, []⟩ (segments sep dot path)

lemma segments_append_cons (path rest : List α) :
    segments sep dot (path ++ sep :: rest) = segments sep dot path ++ segments sep dot rest := by
  rw [segments, List.splitOn_append_cons_self, List.map_append]
  rfl

lemma segments_cons (rest : List α) :
    segments sep dot (sep :: rest) = .stay :: segments sep dot rest := by
  have h := segments_append_cons sep dot [] rest
  rw [List.nil_append] at h
  rw [h]
  rfl

/-- Behind a separator the path goes on from the directory named so far. -/
theorem resolve_append_cons (path rest : List α) :
    resolve sep dot (path ++ sep :: rest)
      = (resolve sep dot (path ++ [sep])).walk (segments sep dot (sep :: rest)) := by
  have hhead : (path ++ sep :: rest).head? = (path ++ [sep]).head? := by
    cases path <;> rfl
  have hnil : segments sep dot [] = [.stay] := rfl
  rw [resolve, resolve, hhead, segments_append_cons, segments_append_cons, segments_cons, hnil,
    Place.walk_append, Place.walk_append]
  rfl

end
end LexicalPath
