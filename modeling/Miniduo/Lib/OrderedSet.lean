import Mathlib.Order.Lattice
import Mathlib.Data.List.Basic

/-!
# Ordered sets

A set as the increasing list of its elements, with the operations of a search tree: insertion,
removal, the first element, and the parts in front of and from a bound on.
-/

/-- A finite set with its elements in increasing order. -/
structure OrderedSet (α : Type*) [LinearOrder α] where
  toList : List α
  sorted : toList.Pairwise (· < ·)

namespace OrderedSet

variable {α : Type*} [LinearOrder α]

instance : Membership α (OrderedSet α) := ⟨fun s a => a ∈ s.toList⟩

instance (s : OrderedSet α) (a : α) : Decidable (a ∈ s) :=
  inferInstanceAs (Decidable (a ∈ s.toList))

def empty : OrderedSet α := ⟨[], List.Pairwise.nil⟩

@[simp] lemma notMem_empty (a : α) : a ∉ (empty : OrderedSet α) := List.not_mem_nil

/-! ## Insertion and removal -/

def insertList (a : α) : List α → List α
  | [] => [a]
  | b :: l => if a < b then a :: b :: l else if a = b then b :: l else b :: insertList a l

lemma mem_insertList {a c : α} {l : List α} : c ∈ insertList a l ↔ c = a ∨ c ∈ l := by
  induction l with
  | nil => simp [insertList]
  | cons b l ih =>
    rw [insertList]
    split_ifs with hlt heq
    · exact List.mem_cons
    · subst heq
      simp
    · rw [List.mem_cons, ih, List.mem_cons]
      exact or_left_comm

lemma insertList_sorted {a : α} {l : List α} (h : l.Pairwise (· < ·)) :
    (insertList a l).Pairwise (· < ·) := by
  induction l with
  | nil => simp [insertList]
  | cons b l ih =>
    have hb := List.pairwise_cons.mp h
    rw [insertList]
    split_ifs with hlt heq
    · rw [List.pairwise_cons]
      refine ⟨fun c hc => ?_, h⟩
      rcases List.mem_cons.mp hc with rfl | hc
      · exact hlt
      · exact hlt.trans (hb.1 c hc)
    · exact h
    · rw [List.pairwise_cons]
      refine ⟨fun c hc => ?_, ih hb.2⟩
      -- the new element comes behind the head
      rcases mem_insertList.mp hc with rfl | hc
      · exact lt_of_le_of_ne (not_lt.mp hlt) (Ne.symm heq)
      · exact hb.1 c hc

def insert (s : OrderedSet α) (a : α) : OrderedSet α := ⟨insertList a s.toList, insertList_sorted s.sorted⟩

def erase (s : OrderedSet α) (a : α) : OrderedSet α :=
  ⟨s.toList.erase a, s.sorted.sublist List.erase_sublist⟩

lemma nodup (s : OrderedSet α) : s.toList.Nodup := s.sorted.imp ne_of_lt

@[simp] lemma mem_insert {s : OrderedSet α} {a c : α} : c ∈ s.insert a ↔ c = a ∨ c ∈ s :=
  mem_insertList

@[simp] lemma mem_erase {s : OrderedSet α} {a c : α} : c ∈ s.erase a ↔ c ≠ a ∧ c ∈ s :=
  s.nodup.mem_erase_iff

/-! ## The order -/

/-- The least element. -/
def first? (s : OrderedSet α) : Option α := s.toList.head?

lemma first?_eq_none {s : OrderedSet α} : s.first? = none ↔ ∀ a, a ∉ s := by
  rw [first?, List.head?_eq_none_iff, List.eq_nil_iff_forall_not_mem]
  rfl

lemma first?_eq_some {s : OrderedSet α} {a : α} (h : s.first? = some a) :
    a ∈ s ∧ ∀ c ∈ s, a ≤ c := by
  obtain ⟨l, hl⟩ := List.head?_eq_some_iff.mp h
  have hsorted := s.sorted
  rw [hl, List.pairwise_cons] at hsorted
  constructor
  · show a ∈ s.toList
    rw [hl]
    exact List.mem_cons_self
  · intro c hc
    have hc : c ∈ s.toList := hc
    rw [hl] at hc
    rcases List.mem_cons.mp hc with rfl | hc
    · exact le_rfl
    · exact le_of_lt (hsorted.1 c hc)

/-- The elements in front of a bound, in their order. -/
def below (s : OrderedSet α) (b : α) : List α := s.toList.takeWhile (· < b)

/-- The elements from a bound on. -/
def onwards (s : OrderedSet α) (b : α) : OrderedSet α :=
  ⟨s.toList.dropWhile (· < b), s.sorted.sublist (List.dropWhile_sublist _)⟩

lemma below_sorted (s : OrderedSet α) (b : α) : (s.below b).Pairwise (· < ·) :=
  s.sorted.sublist (List.takeWhile_sublist _)

lemma mem_takeWhile_lt {b c : α} {l : List α} (h : l.Pairwise (· < ·)) :
    c ∈ l.takeWhile (· < b) ↔ c ∈ l ∧ c < b := by
  induction l with
  | nil => simp
  | cons a l ih =>
    have ha := List.pairwise_cons.mp h
    by_cases hab : a < b
    · rw [List.takeWhile_cons_of_pos (by simpa using hab), List.mem_cons, ih ha.2, List.mem_cons]
      constructor
      · rintro (rfl | ⟨hc, hcb⟩)
        · exact ⟨Or.inl rfl, hab⟩
        · exact ⟨Or.inr hc, hcb⟩
      · rintro ⟨rfl | hc, hcb⟩
        · exact Or.inl rfl
        · exact Or.inr ⟨hc, hcb⟩
    · rw [List.takeWhile_cons_of_neg (by simpa using hab)]
      constructor
      · exact fun hc => absurd hc List.not_mem_nil
      · rintro ⟨hc, hcb⟩
        rcases List.mem_cons.mp hc with rfl | hc
        · exact absurd hcb hab
        · exact absurd ((ha.1 c hc).trans hcb) hab

@[simp] lemma mem_below {s : OrderedSet α} {b c : α} : c ∈ s.below b ↔ c ∈ s ∧ c < b :=
  mem_takeWhile_lt s.sorted

@[simp] lemma mem_onwards {s : OrderedSet α} {b c : α} : c ∈ s.onwards b ↔ c ∈ s ∧ b ≤ c := by
  have hsplit : c ∈ s ↔ c ∈ s.below b ∨ c ∈ s.onwards b := by
    show c ∈ s.toList ↔ c ∈ s.toList.takeWhile (· < b) ∨ c ∈ s.toList.dropWhile (· < b)
    rw [← List.mem_append, List.takeWhile_append_dropWhile]
  have hdisjoint : c ∈ s.below b → c ∉ s.onwards b := by
    have hnodup := s.nodup
    rw [← List.takeWhile_append_dropWhile (p := (decide <| · < b)) (l := s.toList)] at hnodup
    exact fun h h' => (List.nodup_append.mp hnodup).2.2 c h c h' rfl
  rw [mem_below] at hsplit hdisjoint
  constructor
  · intro h
    refine ⟨hsplit.mpr (Or.inr h), not_lt.mp fun hcb => ?_⟩
    exact hdisjoint ⟨hsplit.mpr (Or.inr h), hcb⟩ h
  · rintro ⟨h, hbc⟩
    rcases hsplit.mp h with h | h
    · exact absurd h.2 (not_lt.mpr hbc)
    · exact h

end OrderedSet
