import Mathlib.Data.Int.Notation
import Mathlib.Data.Nat.Notation

/-!
# JSON values

The value a JSON parser returns: what a claim of a token is. A number is a decimal,
`mantissa · 10 ^ (-exponent)`; the members of an object are listed in the order in which they were
read. Equality is decided by a structural test that descends through arrays and objects.
-/

/-- A JSON value. -/
inductive Json
  | null
  | bool (b : Bool)
  | number (mantissa : ℤ) (exponent : ℕ)
  | string (s : String)
  | array (elements : List Json)
  | object (members : List (String × Json))

namespace Json

mutual

/-- The equality test. -/
def beq : Json → Json → Bool
  | .null, .null => true
  | .bool a, .bool b => a == b
  | .number m e, .number m' e' => m == m' && e == e'
  | .string s, .string t => s == t
  | .array xs, .array ys => beqElements xs ys
  | .object xs, .object ys => beqMembers xs ys
  | _, _ => false

/-- The equality test on the elements of arrays. -/
def beqElements : List Json → List Json → Bool
  | [], [] => true
  | x :: xs, y :: ys => beq x y && beqElements xs ys
  | _, _ => false

/-- The equality test on the members of objects. -/
def beqMembers : List (String × Json) → List (String × Json) → Bool
  | [], [] => true
  | (k, x) :: xs, (l, y) :: ys => k == l && beq x y && beqMembers xs ys
  | _, _ => false

end

mutual

theorem beq_eq_true_iff : ∀ a b : Json, beq a b = true ↔ a = b
  | .null, b => by cases b <;> simp [beq]
  | .bool a, b => by cases b <;> simp [beq]
  | .number m e, b => by cases b <;> simp [beq]
  | .string s, b => by cases b <;> simp [beq]
  | .array xs, b => by cases b <;> simp [beq, beqElements_eq_true_iff xs]
  | .object xs, b => by cases b <;> simp [beq, beqMembers_eq_true_iff xs]

theorem beqElements_eq_true_iff : ∀ xs ys : List Json, beqElements xs ys = true ↔ xs = ys
  | [], ys => by cases ys <;> simp [beqElements]
  | x :: xs, ys => by
    cases ys <;> simp [beqElements, beq_eq_true_iff x, beqElements_eq_true_iff xs]

theorem beqMembers_eq_true_iff :
    ∀ xs ys : List (String × Json), beqMembers xs ys = true ↔ xs = ys
  | [], ys => by cases ys <;> simp [beqMembers]
  | (k, x) :: xs, ys => by
    rcases ys with _ | ⟨⟨l, y⟩, ys⟩ <;>
      simp [beqMembers, beq_eq_true_iff x, beqMembers_eq_true_iff xs, and_assoc]

end

instance : DecidableEq Json := fun a b ↦ decidable_of_iff _ (beq_eq_true_iff a b)

/-- A string that may be null, as a JSON value. -/
def ofNullable : Option String → Json
  | none => .null
  | some s => .string s

theorem ofNullable_injective : Function.Injective ofNullable
  | none, none, _ => rfl
  | some _, some _, h => congrArg some (Json.string.inj h)

end Json
