import Mathlib.Data.List.TakeWhile
import Miniduo.Basic

/-!
# Text operations of the standard library

The parts of `std::string`, `std::stringstream` and `std::stoi` that the request decoder uses,
in the classic locale.
-/

namespace Miniduo

def isspace (c : Byte) : Bool := c == 32 || (9 ≤ c && c ≤ 13)
def isdigit (c : Byte) : Bool := 48 ≤ c && c ≤ 57

/-- `string::substr(pos, n)`. -/
def substr (s : Bytes) (pos n : ℕ) : Except Fault Bytes :=
  if pos ≤ s.length then .ok ((s.drop pos).take n) else .error .outOfRange

/-- The string that a system call or a `%s` reads behind `c_str()`. -/
def cString (s : Bytes) : Bytes := s.takeWhile (· ≠ 0)

/-- `ss >> word`: the next word and what is left of the stream. A word that cannot be read is
left empty. -/
def extractWord (s : Bytes) : Bytes × Bytes :=
  let s := s.dropWhile isspace
  (s.takeWhile (!isspace ·), s.dropWhile (!isspace ·))

/-- The value of a string of digits. -/
def decimalValue (s : Bytes) : ℕ := s.foldl (fun acc c => acc * 10 + (c.toNat - 48)) 0

/-- The optional sign that `strtol` accepts. -/
def readSign : Bytes → Bool × Bytes
  | c :: s => if c = 45 then (true, s) else if c = 43 then (false, s) else (false, c :: s)
  | [] => (false, [])

/-- `std::stoi`: white space, an optional sign, then as many digits as there are. -/
def stoi (s : Bytes) : Except Fault ℤ :=
  let (neg, s) := readSign (s.dropWhile isspace)
  let digits := s.takeWhile isdigit
  if digits = [] then .error .invalidArgument
  else
    let value : ℤ := if neg then -(decimalValue digits : ℤ) else decimalValue digits
    if value < -2 ^ 31 ∨ 2 ^ 31 ≤ value then .error .outOfRange else .ok value

/-- `%d` of a non-negative value. -/
def decimal (n : ℕ) : Bytes := (Nat.toDigits 10 n).map fun c => UInt8.ofNat c.toNat

/-- `%d` of an `int`. -/
def decimalInt (n : ℤ) : Bytes := if n < 0 then 45 :: decimal n.natAbs else decimal n.natAbs

/-! ## Decimal text -/

lemma digitChar_byte {d : ℕ} (h : d < 10) :
    UInt8.ofNat (Nat.digitChar d).toNat = UInt8.ofNat (48 + d) := by
  interval_cases d <;> rfl

lemma decimalValue_append (s t : Bytes) :
    decimalValue (s ++ t) = t.foldl (fun acc c => acc * 10 + (c.toNat - 48)) (decimalValue s) :=
  List.foldl_append

/-- The digits of `n` read back as `n`. -/
lemma decimalValue_decimal (n : ℕ) : decimalValue (decimal n) = n := by
  induction n using Nat.strong_induction_on with
  | _ n ih =>
    have hdigit : ∀ d < 10, (UInt8.ofNat (Nat.digitChar d).toNat).toNat - 48 = d := by
      intro d hd
      rw [digitChar_byte hd, UInt8.toNat_ofNat']
      omega
    rcases Nat.lt_or_ge n 10 with hn | hn
    · rw [decimal, Nat.toDigits_of_lt_base hn]
      simp only [decimalValue, List.map_cons, List.map_nil, List.foldl_cons, List.foldl_nil]
      rw [hdigit n hn]
      omega
    · have hdiv : decimal n = decimal (n / 10) ++ [UInt8.ofNat (Nat.digitChar (n % 10)).toNat] := by
        rw [decimal, Nat.toDigits_of_base_le (by omega) hn, List.map_append]
        rfl
      rw [hdiv, decimalValue_append, ih (n / 10) (by omega), List.foldl_cons, List.foldl_nil,
        hdigit _ (Nat.mod_lt _ (by omega))]
      omega

lemma decimal_injective : Function.Injective decimal := by
  intro m n h
  rw [← decimalValue_decimal m, h, decimalValue_decimal]

/-- Decimal text has digits only. -/
lemma isdigit_of_mem_decimal {n : ℕ} {c : Byte} (h : c ∈ decimal n) : isdigit c = true := by
  obtain ⟨d, hd, rfl⟩ := List.mem_map.mp h
  have hdigit := Nat.isDigit_of_mem_toDigits (by norm_num) (by norm_num) hd
  simp only [Char.isDigit, Bool.and_eq_true, decide_eq_true_eq, UInt32.le_iff_toNat_le] at hdigit
  have hlow : 48 ≤ d.toNat := hdigit.1
  have hhigh : d.toNat ≤ 57 := hdigit.2
  have h48 : (48 : UInt8).toNat = 48 := rfl
  have h57 : (57 : UInt8).toNat = 57 := rfl
  simp only [isdigit, Bool.and_eq_true, decide_eq_true_eq, UInt8.le_iff_toNat_le,
    UInt8.toNat_ofNat', h48, h57]
  omega

/-- A sign is not a digit. -/
lemma decimalInt_injective : Function.Injective decimalInt := by
  have hsign : ∀ m n : ℕ, 45 :: decimal m ≠ decimal n := by
    intro m n h
    have h45 : (45 : Byte) ∈ decimal n := by
      rw [← h]
      exact List.mem_cons_self
    exact absurd (isdigit_of_mem_decimal h45) (by decide)
  intro m n h
  unfold decimalInt at h
  split at h <;> split at h
  · have habs := decimal_injective (List.cons.inj h).2
    omega
  · exact absurd h (hsign _ _)
  · exact absurd h.symm (hsign _ _)
  · have habs := decimal_injective h
    omega

lemma not_isspace_of_isdigit {c : Byte} (h : isdigit c = true) : isspace c = false := by
  simp only [isdigit, Bool.and_eq_true, decide_eq_true_eq, UInt8.le_iff_toNat_le] at h
  obtain ⟨h1, h2⟩ := h
  have h48 : (48 : UInt8).toNat = 48 := rfl
  simp only [isspace, Bool.or_eq_false_iff, beq_eq_false_iff_ne, ne_eq, Bool.and_eq_false_iff,
    decide_eq_false_iff_not, UInt8.le_iff_toNat_le]
  refine ⟨fun hc => ?_, Or.inr fun hc => ?_⟩
  · rw [hc] at h1
    exact absurd h1 (by decide)
  · have h13 : (13 : UInt8).toNat = 13 := rfl
    omega

/-- `std::stoi` reads a string of digits. -/
lemma stoi_digits {s : Bytes} (hne : s ≠ []) (hs : ∀ c ∈ s, isdigit c = true)
    (hlt : decimalValue s < 2 ^ 31) : stoi s = .ok (decimalValue s) := by
  obtain ⟨c, t, hct⟩ : ∃ c t, s = c :: t := List.exists_cons_of_ne_nil hne
  have hc : isdigit c = true := hs c (by rw [hct]; exact List.mem_cons_self)
  have hall : s.takeWhile isdigit = s := List.takeWhile_eq_self_iff.mpr hs
  have hspace : s.dropWhile isspace = s := by
    rw [hct, List.dropWhile_cons_of_neg]
    simp [not_isspace_of_isdigit hc]
  -- a digit is not a sign
  have hsign : readSign s = (false, s) := by
    have h45 : c ≠ 45 := by rintro rfl; exact absurd hc (by decide)
    have h43 : c ≠ 43 := by rintro rfl; exact absurd hc (by decide)
    rw [hct, readSign, if_neg h45, if_neg h43]
  simp only [stoi, hspace, hsign, hall, if_neg hne]
  have hrange : ¬((decimalValue s : ℤ) < -2 ^ 31 ∨ (2 : ℤ) ^ 31 ≤ decimalValue s) := by omega
  exact if_neg hrange

/-! ## Searching a byte -/

/-- `find` stops at the first occurrence. -/
lemma idxOf?_of_notMem {s : Bytes} {c : Byte} (h : c ∉ s) (t : Bytes) :
    (s ++ c :: t).idxOf? c = some s.length := by
  induction s with
  | nil => simp [List.idxOf?_cons]
  | cons d s ih =>
    have hd : ¬(d == c) = true := by
      intro hdc
      exact h (by rw [eq_of_beq hdc]; exact List.mem_cons_self)
    rw [List.cons_append, List.idxOf?_cons, if_neg hd,
      ih fun hs => h (List.mem_cons_of_mem d hs)]
    rfl

/-! ## Words -/

/-- A word followed by white space is read, and the white space is left. -/
lemma extractWord_append {w s : Bytes} (hw : ∀ c ∈ w, isspace c = false) (hne : w ≠ [])
    (hs : s = [] ∨ ∃ c t, s = c :: t ∧ isspace c = true) : extractWord (w ++ s) = (w, s) := by
  obtain ⟨c, t, rfl⟩ := List.exists_cons_of_ne_nil hne
  have hdrop : (c :: t ++ s).dropWhile isspace = c :: t ++ s := by
    rw [List.cons_append, List.dropWhile_cons_of_neg]
    simp [hw c List.mem_cons_self]
  have hpos : ∀ d ∈ c :: t, (!isspace d) = true := fun d hd => by rw [hw d hd]; rfl
  simp only [extractWord, hdrop, List.takeWhile_append_of_pos hpos,
    List.dropWhile_append_of_pos hpos]
  rcases hs with rfl | ⟨d, u, rfl, hd⟩
  · simp
  · rw [List.takeWhile_cons_of_neg (by simp [hd]), List.dropWhile_cons_of_neg (by simp [hd]),
      List.append_nil]

/-- One space in front of a word is skipped. -/
lemma extractWord_space (s : Bytes) : extractWord (32 :: s) = extractWord s := by
  simp [extractWord, isspace]

/-! ## Strings that end at a null -/

lemma cString_append_of_mem {s : Bytes} (h : 0 ∈ s) (t : Bytes) :
    cString (s ++ t) = cString s := by
  induction s with
  | nil => cases h
  | cons c s ih =>
    by_cases hc : c = 0
    · simp [cString, hc]
    · have h : 0 ∈ s := by simpa [Ne.symm hc] using h
      have hih : (s ++ t).takeWhile (· ≠ 0) = s.takeWhile (· ≠ 0) := ih h
      simp only [cString, List.cons_append, List.takeWhile_cons, hih]

lemma cString_append_of_notMem {s : Bytes} (h : 0 ∉ s) (t : Bytes) :
    cString (s ++ t) = s ++ cString t := by
  rw [cString, List.takeWhile_append_of_pos]
  · rfl
  · intro c hc
    simp only [ne_eq, decide_eq_true_eq]
    rintro rfl
    exact h hc

end Miniduo
