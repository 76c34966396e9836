import Mathlib.Tactic

/-!
# Dense tables

A list of items, each with a key, and an index that finds the position of the item with a given
key. The operations are those of a `std::vector` beside a `std::map`: an item is pushed at the end,
replaced in place, or removed by moving the last item into its position.
-/

namespace DenseTable

variable {ι β : Type*}

/-- The index finds exactly the items of the list, each under its key. -/
def Indexes (index : ι → Option ℕ) (items : List β) (key : β → ι) : Prop :=
  ∀ a i, index a = some i ↔ ∃ x, items[i]? = some x ∧ key x = a

/-- The item at position `i` is replaced by the last one. -/
def swapRemove (items : List β) (i : ℕ) : List β :=
  match items.getLast? with
  | some last => (items.set i last).dropLast
  | none => items

section
variable {index : ι → Option ℕ} {items : List β} {key : β → ι} {a : ι} {i : ℕ} {x : β}

lemma indexes_nil : Indexes (fun _ : ι => none) ([] : List β) key := by
  intro a i
  simp

lemma Indexes.get (h : Indexes index items key) (hi : index a = some i) :
    ∃ x, items[i]? = some x ∧ key x = a := (h a i).mp hi

lemma Indexes.lt_length (h : Indexes index items key) (hi : index a = some i) :
    i < items.length := by
  obtain ⟨x, hx, -⟩ := h.get hi
  exact (List.getElem?_eq_some_iff.mp hx).1

/-- An item is found at its own position. -/
lemma Indexes.index_key (h : Indexes index items key) (hx : items[i]? = some x) :
    index (key x) = some i := (h (key x) i).mpr ⟨x, hx, rfl⟩

/-- No two positions hold items with one key. -/
lemma Indexes.position_eq (h : Indexes index items key) (hi : index a = some i) {j : ℕ}
    (hx : items[j]? = some x) (hkey : key x = a) : j = i := by
  have hj := h.index_key hx
  rw [hkey, hi] at hj
  exact (Option.some.inj hj).symm

/-- A key that is not found belongs to no item. -/
lemma Indexes.key_ne (h : Indexes index items key) (ha : index a = none) (hx : x ∈ items) :
    key x ≠ a := by
  intro hkey
  obtain ⟨j, hj⟩ := List.mem_iff_getElem?.mp hx
  have := h.index_key hj
  rw [hkey, ha] at this
  cases this

/-- Two lists with the same keys in the same places have one index. -/
lemma Indexes.of_map_eq (h : Indexes index items key) {items' : List β}
    (heq : items'.map key = items.map key) : Indexes index items' key := by
  intro a i
  have hget : items'[i]?.map key = items[i]?.map key := by
    rw [← List.getElem?_map, ← List.getElem?_map, heq]
  rw [h a i, ← Option.map_eq_some_iff, ← Option.map_eq_some_iff, hget]

/-- No two items have one key. -/
lemma Indexes.nodup (h : Indexes index items key) : (items.map key).Nodup := by
  rw [List.nodup_iff_getElem?_ne_getElem?]
  intro i j hij hj heq
  rw [List.length_map] at hj
  rw [List.getElem?_map, List.getElem?_map, List.getElem?_eq_getElem hj,
    List.getElem?_eq_getElem (hij.trans hj), Option.map_some, Option.map_some,
    Option.some.injEq] at heq
  have hi := h.index_key (List.getElem?_eq_getElem (hij.trans hj))
  have := h.position_eq hi (List.getElem?_eq_getElem hj) heq.symm
  omega

/-- There are as many keys as items. -/
lemma Indexes.encard_keys (h : Indexes index items key) :
    {a | index a ≠ none}.encard = items.length := by
  have hrange : {a | index a ≠ none} = Set.range fun i : Fin items.length => key items[i] := by
    ext a
    rw [Set.mem_ofPred_eq, Option.ne_none_iff_exists', Set.mem_range]
    constructor
    · rintro ⟨i, hi⟩
      obtain ⟨x, hx, hkey⟩ := h.get hi
      obtain ⟨hlt, hx⟩ := List.getElem?_eq_some_iff.mp hx
      exact ⟨⟨i, hlt⟩, by rw [← hkey, ← hx]; rfl⟩
    · rintro ⟨i, hkey⟩
      exact ⟨i, hkey ▸ h.index_key (List.getElem?_eq_getElem i.isLt)⟩
  have hinjective : Function.Injective fun i : Fin items.length => key items[i] := by
    intro i j hkey
    have hi := h.index_key (List.getElem?_eq_getElem i.isLt)
    exact Fin.ext (h.position_eq hi (List.getElem?_eq_getElem j.isLt) hkey.symm).symm
  rw [hrange, ← Set.image_univ, hinjective.encard_image, Set.encard_univ,
    ENat.card_eq_coe_fintype_card, Fintype.card_fin]

variable [DecidableEq ι]

lemma Indexes.push (h : Indexes index items key) (ha : index a = none) (hkey : key x = a) :
    Indexes (Function.update index a (some items.length)) (items ++ [x]) key := by
  intro b j
  by_cases hb : b = a
  · rw [hb, Function.update_self]
    constructor
    · intro hj
      rw [← Option.some.inj hj]
      exact ⟨x, by simp, hkey⟩
    · intro hj
      obtain ⟨y, hy, hya⟩ := hj
      rcases Nat.lt_trichotomy j items.length with hlt | heq | hgt
      · -- an old item with the new key
        rw [List.getElem?_append_left hlt] at hy
        exact absurd hya (h.key_ne ha (List.mem_of_getElem? hy))
      · rw [heq]
      · have hnone : (items ++ [x])[j]? = none := by
          rw [List.getElem?_eq_none_iff, List.length_append, List.length_singleton]
          omega
        rw [hnone] at hy
        cases hy
  · rw [Function.update_of_ne hb, h b j]
    constructor
    · intro hj
      obtain ⟨y, hy, hyb⟩ := hj
      refine ⟨y, ?_, hyb⟩
      rw [List.getElem?_append_left (List.getElem?_eq_some_iff.mp hy).1]
      exact hy
    · intro hj
      obtain ⟨y, hy, hyb⟩ := hj
      refine ⟨y, ?_, hyb⟩
      by_cases hlt : j < items.length
      · rw [List.getElem?_append_left hlt] at hy
        exact hy
      · -- the new item has another key
        exfalso
        rw [List.getElem?_append_right (Nat.le_of_not_lt hlt)] at hy
        have hxy : y = x := by simpa using List.mem_of_getElem? hy
        rw [hxy, hkey] at hyb
        exact hb hyb.symm

omit [DecidableEq ι] in
lemma Indexes.set (h : Indexes index items key) (hi : index a = some i) (hkey : key x = a) :
    Indexes index (items.set i x) key := by
  have hlt := h.lt_length hi
  intro b j
  by_cases hj : j = i
  · rw [hj, List.getElem?_set_self hlt]
    constructor
    · intro hb
      -- `b` is at position `i` too, so it is the key of the item that was there
      obtain ⟨y, hy, hyb⟩ := h.get hb
      obtain ⟨z, hz, hza⟩ := h.get hi
      rw [hy, Option.some.injEq] at hz
      exact ⟨x, rfl, by rw [hkey, ← hza, ← hz, hyb]⟩
    · intro hb
      obtain ⟨y, hy, hyb⟩ := hb
      rw [← Option.some.inj hy, hkey] at hyb
      rw [← hyb, hi]
  · rw [List.getElem?_set_ne (Ne.symm hj)]
    exact h b j

omit [DecidableEq ι] in
/-- Replacing an item leaves the items with other keys. -/
lemma Indexes.mem_set (h : Indexes index items key) (hi : index a = some i) {y : β} :
    y ∈ items.set i x ↔ y = x ∨ (y ∈ items ∧ key y ≠ a) := by
  have hlt := h.lt_length hi
  constructor
  · intro hy
    obtain ⟨j, hj⟩ := List.mem_iff_getElem?.mp hy
    by_cases hji : j = i
    · rw [hji, List.getElem?_set_self hlt] at hj
      exact Or.inl (Option.some.inj hj).symm
    · rw [List.getElem?_set_ne (Ne.symm hji)] at hj
      exact Or.inr ⟨List.mem_of_getElem? hj, fun hkey => hji (h.position_eq hi hj hkey)⟩
  · intro hy
    rcases hy with hy | ⟨hy, hkey⟩
    · rw [hy]
      exact List.mem_set hlt x
    · obtain ⟨j, hj⟩ := List.mem_iff_getElem?.mp hy
      -- the item at position `i` has the key `a`
      have hji : j ≠ i := by
        intro hji
        have hk := h.index_key hj
        obtain ⟨z, hz, hza⟩ := h.get hi
        rw [hji, hz, Option.some.injEq] at hj
        exact hkey (hj ▸ hza)
      rw [List.mem_iff_getElem?]
      exact ⟨j, by rw [List.getElem?_set_ne (Ne.symm hji)]; exact hj⟩

omit [DecidableEq ι] in
/-- What a removal leaves at a position: the last item at the freed one, and the old item at every
other one but the last. -/
lemma getElem?_swapRemove {last : β} (hlast : items.getLast? = some last) (j : ℕ) :
    (swapRemove items i)[j]? = some x ↔
      j + 1 < items.length ∧ (if j = i then x = last else items[j]? = some x) := by
  obtain ⟨init, hitems⟩ := List.getLast?_eq_some_iff.mp hlast
  -- the last item goes to position `i` and its own position disappears
  have hset : swapRemove items i = init.set i last := by
    unfold swapRemove
    rw [hlast]
    show (items.set i last).dropLast = init.set i last
    rw [hitems]
    by_cases hlt : i < init.length
    · rw [List.set_append_left _ _ hlt, List.dropLast_concat]
    · have hle : init.length ≤ i := Nat.le_of_not_lt hlt
      rw [List.set_eq_of_length_le hle, List.set_append_right _ _ hle]
      cases i - init.length <;> simp
  rw [hset, hitems, List.length_append, List.length_singleton, Nat.add_lt_add_iff_right]
  by_cases hlt : j < init.length
  · rw [List.getElem?_append_left hlt]
    by_cases hj : j = i
    · subst hj
      rw [List.getElem?_set_self hlt, if_pos rfl]
      simp [hlt, eq_comm]
    · rw [List.getElem?_set_ne (Ne.symm hj), if_neg hj]
      exact (and_iff_right hlt).symm
  · simp [hlt]

/-- After a removal the last item is found at the freed position. -/
lemma Indexes.swapRemove (h : Indexes index items key) (hi : index a = some i) {last : β}
    (hlast : items.getLast? = some last) :
    Indexes (fun b => if b = a then none else if b = key last then some i else index b)
      (DenseTable.swapRemove items i) key := by
  have hpos : items ≠ [] := by
    intro hnil
    rw [hnil] at hlast
    cases hlast
  have hlen : 0 < items.length := List.length_pos_iff.mpr hpos
  have hend : items[items.length - 1]? = some last := by
    rw [← List.getLast?_eq_getElem?]
    exact hlast
  have hfreed : ∀ x, items[i]? = some x → key x = a := by
    intro x hx
    obtain ⟨z, hz, hza⟩ := h.get hi
    rw [hx, Option.some.injEq] at hz
    rw [hz, hza]
  intro b j
  show (if b = a then none else if b = key last then some i else index b) = some j ↔ _
  simp only [getElem?_swapRemove hlast]
  by_cases hba : b = a
  · rw [if_pos hba, hba]
    constructor
    · intro hj
      cases hj
    · intro hx
      obtain ⟨x, ⟨hlt, hx⟩, hkey⟩ := hx
      split at hx
      · have := h.position_eq hi hend (hx ▸ hkey)
        omega
      · exact absurd (h.position_eq hi hx hkey) ‹_›
  · rw [if_neg hba]
    by_cases hbl : b = key last
    · rw [if_pos hbl]
      constructor
      · intro hij
        have hij : i = j := Option.some.inj hij
        have hle := h.lt_length hi
        -- the removed item is not the last one
        have hne : i ≠ items.length - 1 := fun heq => hba (hbl.trans (hfreed last (heq ▸ hend)))
        exact ⟨last, ⟨by omega, by rw [if_pos hij.symm]⟩, hbl.symm⟩
      · intro hx
        obtain ⟨x, ⟨hlt, hx⟩, hkey⟩ := hx
        split at hx
        · rw [‹j = i›]
        · have := h.position_eq (h.index_key hend) hx (hkey.trans hbl)
          omega
    · rw [if_neg hbl, h b j]
      constructor
      · intro hx
        obtain ⟨x, hx, hkey⟩ := hx
        have hle := (List.getElem?_eq_some_iff.mp hx).1
        have hji : j ≠ i := fun hji => hba (hkey ▸ hfreed x (hji ▸ hx))
        have hne : j ≠ items.length - 1 := by
          intro heq
          rw [heq, hend, Option.some.injEq] at hx
          exact hbl (by rw [← hkey, hx])
        exact ⟨x, ⟨by omega, by rw [if_neg hji]; exact hx⟩, hkey⟩
      · intro hx
        obtain ⟨x, ⟨hlt, hx⟩, hkey⟩ := hx
        split at hx
        · exact absurd (by rw [← hkey, hx]) hbl
        · exact ⟨x, hx, hkey⟩

omit [DecidableEq ι] in
/-- A removal leaves the items with other keys. -/
lemma Indexes.mem_swapRemove (h : Indexes index items key) (hi : index a = some i) {y : β} :
    y ∈ DenseTable.swapRemove items i ↔ y ∈ items ∧ key y ≠ a := by
  have hle := h.lt_length hi
  have hbound : items.length - 1 < items.length := by omega
  have hend : items[items.length - 1]? = some items[items.length - 1] :=
    List.getElem?_eq_getElem hbound
  have hlast : items.getLast? = _ := List.getLast?_eq_getElem?.trans hend
  obtain ⟨z, hz, hza⟩ := h.get hi
  simp only [List.mem_iff_getElem?, getElem?_swapRemove hlast]
  constructor
  · intro hy
    obtain ⟨j, hlt, hy⟩ := hy
    split at hy
    · rw [hy]
      refine ⟨⟨_, hend⟩, fun hkey => ?_⟩
      have := h.position_eq hi hend hkey
      omega
    · exact ⟨⟨j, hy⟩, fun hkey => absurd (h.position_eq hi hy hkey) ‹_›⟩
  · intro hy
    obtain ⟨⟨j, hj⟩, hya⟩ := hy
    have hji : j ≠ i := by
      intro hji
      rw [hji, hz, Option.some.injEq] at hj
      exact hya (hj ▸ hza)
    have hlt := (List.getElem?_eq_some_iff.mp hj).1
    by_cases hjl : j = items.length - 1
    · -- the last item has moved
      rw [hjl, hend] at hj
      exact ⟨i, by omega, by rw [if_pos rfl]; exact (Option.some.inj hj).symm⟩
    · exact ⟨j, by omega, by rw [if_neg hji]; exact hj⟩

end

end DenseTable
