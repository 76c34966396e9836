import Mathlib.Tactic

/-!
# Bytes, faults and `size_t`

Vocabulary shared by every module of the model:

* `Byte`, `Bytes`: a `char` buffer is a list of bytes;
* `Fault`: the ways in which a C++ call does not return (a failed `assert`, an exception,
  an access outside an object);
* `SizeT`: `size_t` arithmetic on `ℕ`, wrapping modulo `2 ^ 64`.
-/

namespace Miniduo

/-- A `char`. -/
abbrev Byte := UInt8

/-- The contents of a `std::string`, or of a part of a `std::vector<char>`. -/
abbrev Bytes := List Byte

/-- The bytes of an ASCII literal. -/
def lit (s : String) : Bytes := s.toList.map fun c => UInt8.ofNat c.toNat

/-- What ends a call that does not return. -/
inductive Fault
  /-- `assert` aborts the process. -/
  | assertFailed
  /-- `EventLoop::abortNotInLoopThread`. -/
  | notInLoopThread
  /-- A copy touches memory outside the vector (undefined behaviour). -/
  | outOfBounds
  /-- `std::length_error`, thrown by `vector::resize`. -/
  | lengthError
  /-- `std::out_of_range`, thrown by `string::substr` and `std::stoi`. -/
  | outOfRange
  /-- `std::invalid_argument`, thrown by `std::stoi`. -/
  | invalidArgument
  /-- A loop of the model ran out of fuel; no loop of the program is cut short by it
  (`HttpRequest.tryDecode_fault`). -/
  | diverges
deriving Repr, DecidableEq

/-- `assert(p)`, with assertions enabled as in the repository's build. -/
def assertThat (p : Prop) [Decidable p] : Except Fault Unit :=
  if p then .ok () else .error .assertFailed

@[simp] lemma assertThat_pos {p : Prop} [Decidable p] (h : p) : assertThat p = .ok () :=
  if_pos h

@[simp] lemma assertThat_neg {p : Prop} [Decidable p] (h : ¬p) :
    assertThat p = .error .assertFailed :=
  if_neg h

lemma assertThat_eq_ok {p : Prop} [Decidable p] {u : Unit} : assertThat p = .ok u ↔ p := by
  unfold assertThat
  split <;> simp_all

/-! ## `Except` -/

@[simp] lemma except_ok_bind {ε α β : Type} (a : α) (f : α → Except ε β) :
    ((Except.ok a : Except ε α) >>= f) = f a := rfl

@[simp] lemma except_error_bind {ε α β : Type} (e : ε) (f : α → Except ε β) :
    ((Except.error e : Except ε α) >>= f) = .error e := rfl

/-- A sequence of calls returns iff each of them does. -/
lemma except_bind_eq_ok {ε α β : Type} {x : Except ε α} {f : α → Except ε β} {b : β} :
    (x >>= f) = .ok b ↔ ∃ a, x = .ok a ∧ f a = .ok b := by
  cases x <;> simp

/-! ## `size_t` -/

namespace SizeT

/-- Unsigned addition. -/
def add (a b : ℕ) : ℕ := (a + b) % 2 ^ 64

/-- Unsigned subtraction, wrapping below zero. -/
def sub (a b : ℕ) : ℕ := (a + (2 ^ 64 - b % 2 ^ 64)) % 2 ^ 64

lemma add_of_lt {a b : ℕ} (h : a + b < 2 ^ 64) : add a b = a + b := Nat.mod_eq_of_lt h

lemma sub_of_le {a b : ℕ} (hab : b ≤ a) (ha : a < 2 ^ 64) : sub a b = a - b := by
  unfold sub
  rw [Nat.mod_eq_of_lt (lt_of_le_of_lt hab ha),
    show a + (2 ^ 64 - b) = a - b + 2 ^ 64 by omega, Nat.add_mod_right,
    Nat.mod_eq_of_lt (by omega)]

end SizeT

/-- A value converted to `int`. -/
def toInt (n : ℤ) : ℤ := (n + 2 ^ 31) % 2 ^ 32 - 2 ^ 31

/-- `std::vector<char>::max_size()`. -/
def maxSize : ℕ := 2 ^ 63 - 1

end Miniduo
