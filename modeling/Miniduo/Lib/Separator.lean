import Mathlib.Tactic

/-!
# Lines ended by a two-element separator

The first occurrence of an adjacent pair `a, b` in a list, the lines it cuts the list into, and
how both behave when the list is extended. Nothing is assumed about the element type.
-/

namespace Separator

variable {α : Type*} [DecidableEq α]

/-- Index of the first `a` that is directly followed by `b`. -/
def findPair (a b : α) : List α → Option ℕ
  | x :: y :: s => if x = a ∧ y = b then some 0 else (findPair a b (y :: s)).map (· + 1)
  | [_] => none
  | [] => none

/-- Put an element in front of the first line, or of the tail when there is no line. -/
def consFirst (x : α) : List (List α) × List α → List (List α) × List α
  | ([], tail) => ([], x :: tail)
  | (l :: ls, tail) => ((x :: l) :: ls, tail)

/-- The lines that the pair ends, and the tail behind the last of them. -/
def splitLines (a b : α) : List α → List (List α) × List α
  | x :: y :: s =>
    if x = a ∧ y = b then ([] :: (splitLines a b s).1, (splitLines a b s).2)
    else consFirst x (splitLines a b (y :: s))
  | [x] => ([], [x])
  | [] => ([], [])

variable {a b : α}

lemma findPair_pos {s : List α} : findPair a b (a :: b :: s) = some 0 := by simp [findPair]

lemma findPair_neg {x y : α} {s : List α} (h : ¬(x = a ∧ y = b)) :
    findPair a b (x :: y :: s) = (findPair a b (y :: s)).map (· + 1) := by
  rw [findPair, if_neg h]

/-- The pair found lies inside the list. -/
lemma findPair_le {s : List α} {i : ℕ} (h : findPair a b s = some i) : i + 2 ≤ s.length := by
  induction s generalizing i with
  | nil => simp [findPair] at h
  | cons x s ih =>
    cases s with
    | nil => simp [findPair] at h
    | cons y s =>
      by_cases hxy : x = a ∧ y = b
      · rw [findPair, if_pos hxy, Option.some.injEq] at h
        subst h
        simp
      · rw [findPair_neg hxy, Option.map_eq_some_iff] at h
        obtain ⟨j, hj, rfl⟩ := h
        have := ih hj
        rw [List.length_cons]
        omega

/-- What is found stays found when the list grows at its end. -/
lemma findPair_append {s : List α} {i : ℕ} (h : findPair a b s = some i) (t : List α) :
    findPair a b (s ++ t) = some i := by
  induction s generalizing i with
  | nil => simp [findPair] at h
  | cons x s ih =>
    cases s with
    | nil => simp [findPair] at h
    | cons y s =>
      by_cases hxy : x = a ∧ y = b
      · rw [findPair, if_pos hxy] at h
        rw [List.cons_append, List.cons_append, findPair, if_pos hxy, h]
      · rw [findPair_neg hxy, Option.map_eq_some_iff] at h
        obtain ⟨j, hj, rfl⟩ := h
        rw [List.cons_append, List.cons_append, findPair_neg hxy, ← List.cons_append, ih hj]
        rfl

lemma findPair_none_of_append {s t : List α} (h : findPair a b (s ++ t) = none) :
    findPair a b s = none := by
  cases hs : findPair a b s with
  | none => rfl
  | some i => rw [findPair_append hs] at h; cases h

/-- Without the second separator element there is no pair. -/
lemma findPair_none_of_notMem {s : List α} (h : b ∉ s) : findPair a b s = none := by
  induction s with
  | nil => rfl
  | cons x s ih =>
    have hs := ih fun h' => h (List.mem_cons_of_mem _ h')
    cases s with
    | nil => rfl
    | cons y s =>
      have hy : ¬(x = a ∧ y = b) := fun h' => h (by simp [h'.2])
      rw [findPair_neg hy, hs]
      rfl

/-- A line without the first separator element ends at the first pair. -/
lemma findPair_of_notMem {l : List α} (h : a ∉ l) (s : List α) :
    findPair a b (l ++ a :: b :: s) = some l.length := by
  induction l with
  | nil => exact findPair_pos
  | cons x l ih =>
    have hx : x ≠ a := fun h' => h (by simp [h'])
    have hl := ih fun h' => h (List.mem_cons_of_mem _ h')
    cases l with
    | nil =>
      rw [List.cons_append, List.nil_append, findPair_neg fun h' => hx h'.1, findPair_pos]
      rfl
    | cons y l =>
      rw [List.cons_append, List.cons_append, findPair_neg fun h' => hx h'.1,
        ← List.cons_append, hl]
      rfl

lemma splitLines_neg {x y : α} {s : List α} (h : ¬(x = a ∧ y = b)) :
    splitLines a b (x :: y :: s) = consFirst x (splitLines a b (y :: s)) := by
  rw [splitLines, if_neg h]

/-- Without a pair there is no line. -/
lemma splitLines_none {s : List α} (h : findPair a b s = none) : splitLines a b s = ([], s) := by
  induction s with
  | nil => rfl
  | cons x s ih =>
    cases s with
    | nil => rfl
    | cons y s =>
      by_cases hxy : x = a ∧ y = b
      · rw [findPair, if_pos hxy] at h; cases h
      · rw [findPair_neg hxy, Option.map_eq_none_iff] at h
        rw [splitLines_neg hxy, ih h]
        rfl

/-- The first line ends at the first pair; the others are the lines of what follows. -/
lemma splitLines_some {s : List α} {i : ℕ} (h : findPair a b s = some i) :
    splitLines a b s
      = (s.take i :: (splitLines a b (s.drop (i + 2))).1, (splitLines a b (s.drop (i + 2))).2) := by
  induction s generalizing i with
  | nil => simp [findPair] at h
  | cons x s ih =>
    cases s with
    | nil => simp [findPair] at h
    | cons y s =>
      by_cases hxy : x = a ∧ y = b
      · rw [findPair, if_pos hxy, Option.some.injEq] at h
        subst h
        rw [splitLines, if_pos hxy]
        rfl
      · rw [findPair_neg hxy, Option.map_eq_some_iff] at h
        obtain ⟨j, hj, rfl⟩ := h
        rw [splitLines_neg hxy, ih hj]
        rfl

end Separator
