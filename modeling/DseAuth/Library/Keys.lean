import Mathlib.Data.List.Nodup

/-!
# Lists in which a key determines the entry

Tables and maps are lists here, together with the proof that no two entries have the same key. What
their operations need of such lists is the same whatever the key is: a search for a key finds the
entry that has it (`Keys.find?_eq_some_iff`), changing entries in place leaves the keys as they are
(`Keys.map_key`), and an entry whose key is new may be appended (`Keys.nodup_append`).
-/

namespace Keys

variable {α κ : Type*} {key : α → κ} {l : List α} {x : α}

/-- **A search for a key finds the entry that has it.** -/
theorem find?_eq_some_iff [DecidableEq κ] (h : (l.map key).Nodup) {k : κ} :
    (l.find? fun y ↦ key y = k) = some x ↔ x ∈ l ∧ key x = k := by
  constructor
  · intro hfind
    exact ⟨List.mem_of_find?_eq_some hfind, by simpa using List.find?_some hfind⟩
  · intro hx
    obtain ⟨hx, rfl⟩ := hx
    have hsome : (l.find? fun y ↦ key y = key x).isSome := by
      rw [List.find?_isSome]
      exact ⟨x, hx, decide_eq_true rfl⟩
    obtain ⟨y, hy⟩ := Option.isSome_iff_exists.1 hsome
    have hkey : key y = key x := by simpa using List.find?_some hy
    rw [hy, List.inj_on_of_nodup_map h (List.mem_of_find?_eq_some hy) hx hkey]

/-- Entries that are changed in place keep their keys. -/
theorem map_key {f : α → α} (hf : ∀ y ∈ l, key (f y) = key y) :
    (l.map f).map key = l.map key := by
  rw [List.map_map]
  exact List.map_congr_left hf

/-- An entry with a new key. -/
theorem nodup_append (h : (l.map key).Nodup) (hx : ∀ y ∈ l, key y ≠ key x) :
    ((l ++ [x]).map key).Nodup := by
  rw [List.map_append]
  refine h.append (List.nodup_singleton _) (List.disjoint_singleton.2 fun hmem ↦ ?_)
  obtain ⟨y, hy, hkey⟩ := List.mem_map.1 hmem
  exact hx y hy hkey

end Keys
