import Mathlib.Data.List.Lex
import Mathlib.Tactic

/-!
# Fields of fixed width in lexicographic order

A text is put together from fields. When corresponding fields of two texts have the same length, the
texts compare as their lists of fields do (`flatten_lt`), and a numeral of fixed width compares as
its number does (`numeral_lt`). The order of the elements is arbitrary.
-/

namespace FixedWidth

variable {α : Type*} [LT α]

/-- A difference in front decides. -/
lemma append_lt_append {xs ys : List α} (h : xs < ys) (hlength : xs.length = ys.length)
    (us vs : List α) : xs ++ us < ys ++ vs := by
  induction h with
  | nil => simp at hlength
  | rel h => exact List.Lex.rel h
  | cons h ih => exact List.Lex.cons (ih (Nat.succ.inj hlength))

/-- **Fields.** -/
theorem flatten_lt {xss yss : List (List α)} (h : xss < yss)
    (hlength : xss.map List.length = yss.map List.length) : xss.flatten < yss.flatten := by
  induction h with
  | nil => simp at hlength
  | rel h =>
    rw [List.flatten_cons, List.flatten_cons]
    exact append_lt_append h (List.cons.inj hlength).1 _ _
  | cons h ih =>
    rw [List.flatten_cons, List.flatten_cons]
    exact List.append_left_lt (ih (List.cons.inj hlength).2)

/-- Cutting two texts off at the same place never turns their order round. -/
lemma take_lt_or_eq {xs ys : List α} (h : xs < ys) (n : ℕ) :
    xs.take n < ys.take n ∨ xs.take n = ys.take n := by
  induction h generalizing n with
  | nil =>
    cases n with
    | zero => exact Or.inr rfl
    | succ n => exact Or.inl .nil
  | rel h =>
    cases n with
    | zero => exact Or.inr rfl
    | succ n => exact Or.inl (.rel h)
  | cons h ih =>
    cases n with
    | zero => exact Or.inr rfl
    | succ n =>
      rcases ih n with hlt | heq
      · exact Or.inl (.cons hlt)
      · exact Or.inr (congrArg (_ :: ·) heq)

/-! ## Numerals -/

variable {digit : ℕ → α} {b : ℕ}

omit [LT α] in
/-- The last `w` digits of a number in base `b`. -/
def numeral (b : ℕ) (digit : ℕ → α) : ℕ → ℕ → List α
  | 0, _ => []
  | w + 1, n => numeral b digit w (n / b) ++ [digit (n % b)]

omit [LT α] in
@[simp] lemma length_numeral (w n : ℕ) : (numeral b digit w n).length = w := by
  induction w generalizing n with
  | zero => rfl
  | succ w ih => rw [numeral, List.length_append, ih, List.length_singleton]

/-- **Numerals of the same width.** -/
theorem numeral_lt (hdigit : ∀ i j, i < j → j < b → digit i < digit j) {w m n : ℕ} (h : m < n)
    (hn : n < b ^ w) : numeral b digit w m < numeral b digit w n := by
  induction w generalizing m n with
  | zero =>
    rw [pow_zero] at hn
    omega
  | succ w ih =>
    rw [pow_succ] at hn
    have hb : 0 < b := by
      by_contra hzero
      rw [Nat.eq_zero_of_not_pos hzero, Nat.mul_zero] at hn
      exact Nat.not_lt_zero n hn
    rcases (Nat.div_le_div_right h.le : m / b ≤ n / b).lt_or_eq with hlt | heq
    · exact append_lt_append (ih hlt (Nat.div_lt_of_lt_mul (by rwa [mul_comm]))) (by simp) _ _
    · -- the last digits differ
      have hmod : m % b < n % b := by
        have hm := Nat.div_add_mod m b
        have hn := Nat.div_add_mod n b
        rw [heq] at hm
        omega
      rw [numeral, numeral, heq]
      exact List.append_left_lt (.rel (hdigit _ _ hmod (Nat.mod_lt _ hb)))

end FixedWidth
