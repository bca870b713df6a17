import Mathlib.Data.List.Basic
import Mathlib.Data.Int.Notation
import Mathlib.Data.Nat.Notation

/-!
# `Integer.toString` and `Integer.parseInt`

`toString` on `ℤ` prints as `Integer.toString` does: a minus sign for negative numbers, then ASCII
digits without leading zeroes. `Integer.parseInt` reads more than that: an optional sign of either
kind, leading zeroes, and every Unicode decimal digit that `Character.digit` knows. What it rejects
is `none` here and a `NumberFormatException` there. `parseInt_toString` is the round trip on the
range of a Java `int`.
-/

namespace JavaInteger

/-- The range of a Java `int`. -/
def InRange (n : ℤ) : Prop := -2147483648 ≤ n ∧ n ≤ 2147483647

instance (n : ℤ) : Decidable (InRange n) :=
  inferInstanceAs (Decidable (_ ∧ _))

/-- The code points of the zeroes of the decimal digit ranges that a `char` can hold. -/
def digitZeros : List ℕ :=
  0x0030 :: [0x0660, 0x06F0, 0x07C0, 0x0966, 0x09E6, 0x0A66, 0x0AE6, 0x0B66, 0x0BE6, 0x0C66, 0x0CE6,
    0x0D66, 0x0E50, 0x0ED0, 0x0F20, 0x1040, 0x1090, 0x17E0, 0x1810, 0x1946, 0x19D0, 0x1A80, 0x1A90,
    0x1B50, 0x1BB0, 0x1C40, 0x1C50, 0xA620, 0xA8D0, 0xA900, 0xA9D0, 0xAA50, 0xABF0, 0xFF10]

/-- `Character.digit(c, 10)`. -/
def digit (c : Char) : Option ℕ :=
  (digitZeros.find? fun z ↦ z ≤ c.toNat && c.toNat < z + 10).map fun z ↦ c.toNat - z

/-- The magnitude: at least one digit, and nothing else. -/
def parseMagnitude (cs : List Char) : Option ℕ :=
  if cs.isEmpty then none else cs.foldlM (fun n c ↦ (digit c).map (10 * n + ·)) 0

/-- The number before the range check. -/
def parseSigned : List Char → Option ℤ
  | '-' :: cs => (parseMagnitude cs).map fun n : ℕ ↦ -(n : ℤ)
  | '+' :: cs => (parseMagnitude cs).map fun n : ℕ ↦ (n : ℤ)
  | cs => (parseMagnitude cs).map fun n : ℕ ↦ (n : ℤ)

/-- `Integer.parseInt`. -/
def parseInt (s : String) : Option ℤ :=
  (parseSigned s.toList).filter fun n ↦ decide (InRange n)

/-! ### The round trip -/

theorem digit_of_isDigit {c : Char} (h : c.isDigit = true) :
    digit c = some (c.toNat - '0'.toNat) := by
  have hrange : 48 ≤ c.toNat ∧ c.toNat ≤ 57 := by
    rw [Char.isDigit, Bool.and_eq_true, decide_eq_true_eq, decide_eq_true_eq] at h
    exact ⟨UInt32.le_iff_toNat_le.1 h.1, UInt32.le_iff_toNat_le.1 h.2⟩
  have hfirst : (decide (0x0030 ≤ c.toNat) && decide (c.toNat < 0x0030 + 10)) = true := by
    simp only [Bool.and_eq_true, decide_eq_true_eq]
    omega
  rw [digit, digitZeros, List.find?_cons, hfirst]
  rfl

/-- On ASCII digits the fold that may fail is the fold that cannot. -/
theorem foldlM_digit {cs : List Char} (h : ∀ c ∈ cs, c.isDigit = true) (n : ℕ) :
    cs.foldlM (fun n c ↦ (digit c).map (10 * n + ·)) n = some (Nat.ofDigitChars 10 cs n) := by
  induction cs generalizing n with
  | nil => rw [List.foldlM_nil, Nat.ofDigitChars_nil]; rfl
  | cons c cs ih =>
    rw [List.foldlM_cons, digit_of_isDigit (h c List.mem_cons_self), Nat.ofDigitChars_cons]
    exact ih (fun d hd ↦ h d (List.mem_cons_of_mem c hd)) _

theorem parseMagnitude_toDigits (n : ℕ) : parseMagnitude (Nat.toDigits 10 n) = some n := by
  have hdigits : ∀ c ∈ Nat.toDigits 10 n, c.isDigit = true :=
    fun c hc ↦ Nat.isDigit_of_mem_toDigits (by decide) (by decide) hc
  have hne : ¬ (Nat.toDigits 10 n).isEmpty = true :=
    fun h ↦ Nat.toDigits_ne_nil (List.isEmpty_iff.1 h)
  rw [parseMagnitude, if_neg hne, foldlM_digit hdigits, Nat.ofDigitChars_ten_toDigits]

/-- Digits do not start with a sign. -/
theorem parseSigned_toDigits (n : ℕ) : parseSigned (Nat.toDigits 10 n) = some (n : ℤ) := by
  have hdigits : ∀ c ∈ Nat.toDigits 10 n, c.isDigit = true :=
    fun c hc ↦ Nat.isDigit_of_mem_toDigits (by decide) (by decide) hc
  have hmag := parseMagnitude_toDigits n
  unfold parseSigned
  split
  · next cs heq => exact absurd (hdigits '-' (heq ▸ List.mem_cons_self)) (by decide)
  · next cs heq => exact absurd (hdigits '+' (heq ▸ List.mem_cons_self)) (by decide)
  · rw [hmag]; rfl

theorem parseSigned_toString (n : ℤ) : parseSigned (toString n).toList = some n := by
  rw [Int.toString_eq_repr, Int.repr_eq_if]
  split
  · next h => rw [Nat.toList_repr, parseSigned_toDigits, Int.toNat_of_nonneg h]
  · next h =>
    rw [String.toList_append, Nat.toList_repr]
    show (parseMagnitude (Nat.toDigits 10 (-n).toNat)).map (fun m : ℕ ↦ -(m : ℤ)) = some n
    rw [parseMagnitude_toDigits, Option.map_some]
    exact congrArg some (by omega)

/-- **Reading a printed `int` gives it back.** -/
theorem parseInt_toString {n : ℤ} (h : InRange n) : parseInt (toString n) = some n := by
  rw [parseInt, parseSigned_toString, Option.filter_some, if_pos (decide_eq_true h)]

/-- Printing is injective on all of `ℤ`. -/
theorem toString_injective : Function.Injective (toString : ℤ → String) := by
  intro m n h
  have hp : some m = some n := by rw [← parseSigned_toString m, h, parseSigned_toString]
  exact Option.some.inj hp

end JavaInteger
