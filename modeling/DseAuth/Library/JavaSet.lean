import Mathlib.Data.List.Nodup
import Mathlib.Data.List.Perm.Subperm

/-!
# Sets of the Java collection library

A `java.util.Set` is modelled by the list of its elements in iteration order, each once. Iteration
order is kept because the code serializes sets; nothing else observes it, and everything below is
stated through membership. In particular `equals`, written as `AbstractSet.equals` computes it
(equal sizes, and one contains all of the other), is extensional equality (`equals_iff`).
-/

/-- A `java.util.Set`: its elements in iteration order. -/
structure JavaSet (α : Type*) where
  /-- The elements, in iteration order. -/
  elems : List α
  /-- No element occurs twice. -/
  nodup : elems.Nodup
deriving DecidableEq

namespace JavaSet

variable {α : Type*}

instance : Membership α (JavaSet α) where
  mem s a := a ∈ s.elems

theorem mem_def {a : α} {s : JavaSet α} : a ∈ s ↔ a ∈ s.elems := Iff.rfl

instance : EmptyCollection (JavaSet α) where
  emptyCollection := ⟨[], List.nodup_nil⟩

@[simp] theorem not_mem_empty (a : α) : a ∉ (∅ : JavaSet α) := List.not_mem_nil

/-- `Set.size`. -/
def size (s : JavaSet α) : ℕ := s.elems.length

/-- The set of the images, when distinct elements have distinct images. -/
def map {β : Type*} (f : α → β) (hf : Function.Injective f) (s : JavaSet α) : JavaSet β :=
  ⟨s.elems.map f, s.nodup.map hf⟩

@[simp] theorem mem_map {β : Type*} {f : α → β} {hf : Function.Injective f} {s : JavaSet α}
    {b : β} : b ∈ s.map f hf ↔ ∃ a ∈ s, f a = b :=
  List.mem_map

variable [DecidableEq α]

instance (a : α) (s : JavaSet α) : Decidable (a ∈ s) :=
  inferInstanceAs (Decidable (a ∈ s.elems))

/-- `Set.add`: a set that contains the element already is left as it is. -/
def add (s : JavaSet α) (a : α) : JavaSet α :=
  if h : a ∈ s.elems then s
  else ⟨s.elems ++ [a], s.nodup.append (List.nodup_singleton a) (List.disjoint_singleton.2 h)⟩

/-- `Set.remove`. -/
def remove (s : JavaSet α) (a : α) : JavaSet α :=
  ⟨s.elems.filter (· ≠ a), s.nodup.filter _⟩

/-- `new HashSet<>(collection)`. -/
def ofList (l : List α) : JavaSet α := l.foldl add ∅

/-- `AbstractSet.equals`. -/
def equals (s t : JavaSet α) : Bool :=
  s.size == t.size && t.elems.all fun a ↦ decide (a ∈ s)

@[simp] theorem mem_add {s : JavaSet α} {a b : α} : b ∈ s.add a ↔ b ∈ s ∨ b = a := by
  by_cases h : a ∈ s.elems
  · rw [add, dif_pos h]
    exact ⟨Or.inl, fun hb ↦ hb.elim id fun hba ↦ hba ▸ h⟩
  · rw [add, dif_neg h]
    simp [mem_def]

@[simp] theorem mem_remove {s : JavaSet α} {a b : α} : b ∈ s.remove a ↔ b ∈ s ∧ b ≠ a := by
  simp [remove, mem_def]

/-- Adding a list of elements one after the other, whatever its order and repetitions. -/
theorem mem_foldl_add {l : List α} {s : JavaSet α} {b : α} :
    b ∈ l.foldl add s ↔ b ∈ s ∨ b ∈ l := by
  induction l generalizing s with
  | nil => simp
  | cons a l ih => rw [List.foldl_cons, ih, mem_add, List.mem_cons, or_assoc]

/-- Removing a list of elements one after the other. -/
theorem mem_foldl_remove {l : List α} {s : JavaSet α} {b : α} :
    b ∈ l.foldl remove s ↔ b ∈ s ∧ b ∉ l := by
  induction l generalizing s with
  | nil => simp
  | cons a l ih => rw [List.foldl_cons, ih, mem_remove, List.mem_cons, not_or, and_assoc]

@[simp] theorem mem_ofList {l : List α} {a : α} : a ∈ ofList l ↔ a ∈ l := by
  rw [ofList, mem_foldl_add]
  simp

/-- **`equals` is extensional equality.** Equal sizes turn the one inclusion that is tested into
both, because neither list repeats an element. -/
theorem equals_iff {s t : JavaSet α} : s.equals t = true ↔ ∀ a, a ∈ s ↔ a ∈ t := by
  rw [equals, Bool.and_eq_true, beq_iff_eq, List.all_eq_true]
  constructor
  · rintro ⟨hsize, hall⟩ a
    have hsub : t.elems ⊆ s.elems := fun b hb ↦ of_decide_eq_true (hall b hb)
    have hperm : t.elems.Perm s.elems :=
      (t.nodup.subperm hsub).perm_of_length_le (Nat.le_of_eq hsize)
    exact hperm.symm.mem_iff
  · intro h
    have hperm : s.elems.Perm t.elems := (List.perm_ext_iff_of_nodup s.nodup t.nodup).2 h
    exact ⟨hperm.length_eq, fun a ha ↦ decide_eq_true ((h a).2 ha)⟩

end JavaSet
