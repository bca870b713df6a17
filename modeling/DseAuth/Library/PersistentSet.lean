import DseAuth.Library.JavaSet

/-!
# Sets that are loaded, detached, changed and written back

An object-relational mapper hands a set-valued property out as a collection that remembers what it
was loaded with. When the owner is written back in a later transaction the table does not receive
the set but the **difference** between the set and that snapshot: rows of elements that disappeared
are deleted, rows of elements that are new are inserted, and every other row is left as it is by
then. A null element (`none`) is held by the object and never reaches the table.

The table may hold an element in several rows, since nothing in its schema forbids it and two
write-backs may both insert the element; a load merges them and a delete removes them all.

`mem_writeBack` is the whole behaviour in terms of membership. `writeBack_agrees_iff` says when the
table and the object agree afterwards: exactly when the rows had not moved away from the snapshot
on the elements the object did not change.

`lastWrite` is the value of a register after a log of write attempts of which each either sets it
or leaves it.
-/

/-- A set-valued property of an object that may be detached from its session. -/
structure PersistentSet (α : Type*) where
  /-- What was loaded. -/
  snapshot : JavaSet α
  /-- What the object holds now; `none` is a null element. -/
  set : JavaSet (Option α)
deriving DecidableEq

namespace PersistentSet

variable {α : Type*} [DecidableEq α]

/-- Read a set from the rows of a table. -/
def load (rows : List α) : PersistentSet α where
  snapshot := JavaSet.ofList rows
  set := JavaSet.ofList (rows.map some)

/-- Add an element to the object. -/
def add (p : PersistentSet α) (a : Option α) : PersistentSet α :=
  { p with set := p.set.add a }

/-- Remove an element from the object. -/
def remove (p : PersistentSet α) (a : Option α) : PersistentSet α :=
  { p with set := p.set.remove a }

/-- The elements whose rows a write-back deletes. -/
def deletes (p : PersistentSet α) : List α :=
  p.snapshot.elems.filter fun a ↦ some a ∉ p.set

/-- The elements a write-back inserts a row for. -/
def inserts (p : PersistentSet α) : List α :=
  (p.set.elems.filterMap id).filter fun a ↦ a ∉ p.snapshot

/-- The rows after a write-back. -/
def writeBack (p : PersistentSet α) (rows : List α) : List α :=
  rows.filter (fun a ↦ a ∉ p.deletes) ++ p.inserts

/-- The object holds `a` now and did not when it was loaded, or the other way round. -/
def Changed (p : PersistentSet α) (a : α) : Prop :=
  ¬ (a ∈ p.snapshot ↔ some a ∈ p.set)

@[simp] theorem mem_load_snapshot {rows : List α} {a : α} :
    a ∈ (load rows).snapshot ↔ a ∈ rows :=
  JavaSet.mem_ofList

@[simp] theorem some_mem_load_set {rows : List α} {a : α} :
    some a ∈ (load rows).set ↔ a ∈ rows := by
  simp [load]

@[simp] theorem none_not_mem_load_set {rows : List α} : none ∉ (load rows).set := by
  simp [load]

@[simp] theorem mem_deletes {p : PersistentSet α} {a : α} :
    a ∈ p.deletes ↔ a ∈ p.snapshot ∧ some a ∉ p.set := by
  simp [deletes, JavaSet.mem_def]

@[simp] theorem mem_inserts {p : PersistentSet α} {a : α} :
    a ∈ p.inserts ↔ some a ∈ p.set ∧ a ∉ p.snapshot := by
  simp [inserts, JavaSet.mem_def]

/-- **A write-back, element by element.** -/
theorem mem_writeBack {p : PersistentSet α} {rows : List α} {a : α} :
    a ∈ p.writeBack rows ↔
      a ∈ rows ∧ ¬ (a ∈ p.snapshot ∧ some a ∉ p.set) ∨ some a ∈ p.set ∧ a ∉ p.snapshot := by
  rw [writeBack, List.mem_append, List.mem_filter, decide_eq_true_eq, mem_deletes, mem_inserts]

/-- An element the object changed ends up in the table as the object has it. -/
theorem mem_writeBack_of_changed {p : PersistentSet α} {rows : List α} {a : α}
    (h : p.Changed a) : a ∈ p.writeBack rows ↔ some a ∈ p.set := by
  rw [mem_writeBack]
  rw [Changed] at h
  tauto

/-- An element the object did not change stays as the table has it. -/
theorem mem_writeBack_of_not_changed {p : PersistentSet α} {rows : List α} {a : α}
    (h : ¬ p.Changed a) : a ∈ p.writeBack rows ↔ a ∈ rows := by
  rw [mem_writeBack]
  rw [Changed, not_not] at h
  tauto

/-- **When table and object agree.** -/
theorem writeBack_agrees_iff {p : PersistentSet α} {rows : List α} :
    (∀ a, a ∈ p.writeBack rows ↔ some a ∈ p.set) ↔
      ∀ a, ¬ p.Changed a → (a ∈ rows ↔ a ∈ p.snapshot) := by
  constructor
  · intro h a hunch
    have hrow : a ∈ rows ↔ some a ∈ p.set := (mem_writeBack_of_not_changed hunch).symm.trans (h a)
    exact hrow.trans (not_not.1 hunch).symm
  · intro h a
    by_cases hch : p.Changed a
    · exact mem_writeBack_of_changed hch
    · exact (mem_writeBack_of_not_changed hch).trans ((h a hch).trans (not_not.1 hch))

/-- **When a write-back changes nothing**: when the table has every change of the object already. -/
theorem writeBack_keeps_iff {p : PersistentSet α} {rows : List α} :
    (∀ a, a ∈ p.writeBack rows ↔ a ∈ rows) ↔
      ∀ a, p.Changed a → (a ∈ rows ↔ some a ∈ p.set) := by
  constructor
  · intro h a hch
    exact (h a).symm.trans (mem_writeBack_of_changed hch)
  · intro h a
    by_cases hch : p.Changed a
    · exact (mem_writeBack_of_changed hch).trans (h a hch).symm
    · exact mem_writeBack_of_not_changed hch

/-- A write-back over the rows the set was loaded from stores the set. -/
theorem mem_writeBack_of_fresh {p : PersistentSet α} {rows : List α}
    (hfresh : ∀ a, a ∈ rows ↔ a ∈ p.snapshot) {a : α} :
    a ∈ p.writeBack rows ↔ some a ∈ p.set :=
  writeBack_agrees_iff.2 (fun b _ ↦ hfresh b) a

/-! ### Changing the object -/

/-- Adding a list changes the set and not what was loaded. -/
theorem foldl_add (p : PersistentSet α) (l : List (Option α)) :
    l.foldl add p = { p with set := l.foldl JavaSet.add p.set } := by
  induction l generalizing p with
  | nil => rfl
  | cons a l ih => rw [List.foldl_cons, ih, List.foldl_cons, add]

/-- So does removing one. -/
theorem foldl_remove (p : PersistentSet α) (l : List (Option α)) :
    l.foldl remove p = { p with set := l.foldl JavaSet.remove p.set } := by
  induction l generalizing p with
  | nil => rfl
  | cons a l ih => rw [List.foldl_cons, ih, List.foldl_cons, remove]

@[simp] theorem snapshot_foldl_add {p : PersistentSet α} {l : List (Option α)} :
    (l.foldl add p).snapshot = p.snapshot := by
  rw [foldl_add]

@[simp] theorem snapshot_foldl_remove {p : PersistentSet α} {l : List (Option α)} :
    (l.foldl remove p).snapshot = p.snapshot := by
  rw [foldl_remove]

@[simp] theorem mem_set_foldl_add {p : PersistentSet α} {l : List (Option α)} {a : Option α} :
    a ∈ (l.foldl add p).set ↔ a ∈ p.set ∨ a ∈ l := by
  rw [foldl_add]
  exact JavaSet.mem_foldl_add

@[simp] theorem mem_set_foldl_remove {p : PersistentSet α} {l : List (Option α)} {a : Option α} :
    a ∈ (l.foldl remove p).set ↔ a ∈ p.set ∧ a ∉ l := by
  rw [foldl_remove]
  exact JavaSet.mem_foldl_remove

end PersistentSet

/-- The value of a register after the write attempts of a log, newest first: the newest attempt
that `writes` something decides. -/
def lastWrite {ε β : Type*} (writes : ε → Option β) (log : List ε) (start : β) : β :=
  (log.findSome? writes).getD start

@[simp] theorem lastWrite_cons {ε β : Type*} (writes : ε → Option β) (e : ε) (log : List ε)
    (start : β) :
    lastWrite writes (e :: log) start = (writes e).getD (lastWrite writes log start) := by
  rw [lastWrite, List.findSome?_cons]
  cases writes e <;> rfl
