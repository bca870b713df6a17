import DseAuth.Library.Keys

/-!
# Bidirectional maps

A map whose values are unique as well as its keys, so that it can be read in both directions. When
two values are equal is decided by the value type, which may ignore most of what is in a value:
here two values are equal to the map when they have the same `label`. A map of this kind therefore
does not notice that a value it is given differs from the one it holds, and `put` has three
outcomes where one might expect one (`put_of_bound`, `put_of_new`, and `none` for a value that
another key is bound to).

The entries are kept in the order in which their keys were inserted, which is the order of
iteration.
-/

/-- A map from `κ` to `ν` without two values of one label. -/
structure BiMap (κ ν β : Type*) (label : ν → β) where
  /-- The entries, in the order of iteration. -/
  entries : List (κ × ν)
  /-- No key is bound twice. -/
  keys_nodup : (entries.map Prod.fst).Nodup
  /-- No two values are equal. -/
  labels_nodup : (entries.map fun e ↦ label e.2).Nodup

namespace BiMap

variable {κ ν β : Type*} {label : ν → β}

instance : EmptyCollection (BiMap κ ν β label) where
  emptyCollection := ⟨[], List.nodup_nil, List.nodup_nil⟩

/-- The values, in the order of iteration. -/
def values (m : BiMap κ ν β label) : List ν := m.entries.map Prod.snd

variable {m : BiMap κ ν β label} {k : κ} {v w : ν} {e e' : κ × ν}

theorem eq_of_key (he : e ∈ m.entries)
    (he' : e' ∈ m.entries) (h : e.1 = e'.1) : e = e' :=
  List.inj_on_of_nodup_map m.keys_nodup he he' h

theorem eq_of_label (he : e ∈ m.entries)
    (he' : e' ∈ m.entries) (h : label e.2 = label e'.2) : e = e' :=
  List.inj_on_of_nodup_map m.labels_nodup he he' h

theorem mem_values : v ∈ m.values ↔ ∃ k, (k, v) ∈ m.entries := by
  rw [values, List.mem_map]
  constructor
  · intro h
    obtain ⟨⟨k, w⟩, he, rfl⟩ := h
    exact ⟨k, he⟩
  · intro h
    obtain ⟨k, he⟩ := h
    exact ⟨(k, v), he, rfl⟩

theorem values_nodup : (m.values.map label).Nodup := by
  rw [values, List.map_map]
  exact m.labels_nodup

/-- A value differs from those that come before it. -/
theorem label_ne_of_before {before after : List ν} (h : m.values = before ++ v :: after)
    (hw : w ∈ before) : label w ≠ label v := by
  have hnodup : (m.values.map label).Nodup := values_nodup
  rw [h, List.map_append, List.map_cons, List.nodup_append] at hnodup
  exact hnodup.2.2 (label w) (List.mem_map_of_mem hw) (label v) List.mem_cons_self

section Keys

variable [DecidableEq κ]

/-- The value a key is bound to. -/
def get (m : BiMap κ ν β label) (k : κ) : Option ν :=
  (m.entries.find? fun e ↦ e.1 = k).map Prod.snd

/-- Binding a key anew leaves the key as it is. -/
theorem fst_ite : (if e.1 = k then (k, v) else e).1 = e.1 := by
  split
  · next h => exact h.symm
  · rfl

/-- Change the value of a key in place, leaving it equal to what it was. -/
def modify (m : BiMap κ ν β label) (k : κ) (f : ν → ν) (hf : ∀ v, label (f v) = label v) :
    BiMap κ ν β label where
  entries := m.entries.map fun e ↦ if e.1 = k then (k, f e.2) else e
  keys_nodup := by
    rw [Keys.map_key fun e _ ↦ fst_ite]
    exact m.keys_nodup
  labels_nodup := by
    have hlabels : (m.entries.map fun e ↦ if e.1 = k then (k, f e.2) else e).map
        (fun e ↦ label e.2) = m.entries.map fun e ↦ label e.2 := by
      refine Keys.map_key fun e _ ↦ ?_
      split
      · exact hf e.2
      · rfl
    exact hlabels ▸ m.labels_nodup

theorem get_eq_some_iff : m.get k = some v ↔ (k, v) ∈ m.entries := by
  rw [get, Option.map_eq_some_iff]
  constructor
  · intro h
    obtain ⟨e, hfind, rfl⟩ := h
    obtain ⟨he, rfl⟩ := (Keys.find?_eq_some_iff m.keys_nodup).1 hfind
    exact he
  · intro h
    exact ⟨(k, v), (Keys.find?_eq_some_iff m.keys_nodup).2 ⟨h, rfl⟩, rfl⟩

theorem mem_modify {f : ν → ν} {hf : ∀ v, label (f v) = label v} :
    e ∈ (m.modify k f hf).entries ↔
      ∃ e' ∈ m.entries, (if e'.1 = k then (k, f e'.2) else e') = e :=
  List.mem_map

end Keys

section Labels

variable [DecidableEq β]

/-- Remove the entry with an equal value, if there is one, and return its key: removal from the
inverse map. -/
def removeValue (m : BiMap κ ν β label) (v : ν) : Option κ × BiMap κ ν β label :=
  ((m.entries.find? fun e ↦ label e.2 = label v).map Prod.fst, {
    entries := m.entries.filter fun e ↦ label e.2 ≠ label v
    keys_nodup := m.keys_nodup.sublist (List.filter_sublist.map _)
    labels_nodup := m.labels_nodup.sublist (List.filter_sublist.map _) })

theorem mem_removeValue :
    e ∈ (m.removeValue v).2.entries ↔ e ∈ m.entries ∧ label e.2 ≠ label v := by
  rw [removeValue, List.mem_filter, decide_eq_true_eq]

/-- Nothing is removed where no key is returned. -/
theorem removeValue_of_none (h : (m.removeValue v).1 = none) : (m.removeValue v).2 = m := by
  have hfind : (m.entries.find? fun e ↦ label e.2 = label v) = none := Option.map_eq_none_iff.1 h
  have hfilter : (m.entries.filter fun e ↦ label e.2 ≠ label v) = m.entries := by
    refine List.filter_eq_self.2 fun e he ↦ ?_
    simpa using List.find?_eq_none.1 hfind e he
  rcases m with ⟨entries, keys_nodup, labels_nodup⟩
  simp only [removeValue, mk.injEq]
  exact hfilter

/-- When a key is returned. -/
theorem removeValue_isSome_iff :
    (m.removeValue v).1.isSome = true ↔ ∃ e ∈ m.entries, label e.2 = label v := by
  rw [removeValue, Option.isSome_map, List.find?_isSome]
  simp only [decide_eq_true_eq]

end Labels

section Put

variable [DecidableEq κ] [DecidableEq β]

/-- Bind a key. Where it is bound to an equal value already the map is returned as it is, *with the
old value*; where another key is bound to an equal value the outcome is `none`, an exception. -/
def put (m : BiMap κ ν β label) (k : κ) (v : ν) : Option (BiMap κ ν β label) :=
  if ∃ e ∈ m.entries, e.1 = k ∧ label e.2 = label v then some m
  else if hv : ∀ e ∈ m.entries, label e.2 ≠ label v then
    if hk : ∀ e ∈ m.entries, e.1 ≠ k then
      some {
        entries := m.entries ++ [(k, v)]
        keys_nodup := Keys.nodup_append m.keys_nodup hk
        labels_nodup := Keys.nodup_append m.labels_nodup hv }
    else
      some {
        entries := m.entries.map fun e ↦ if e.1 = k then (k, v) else e
        keys_nodup := by
          rw [Keys.map_key fun e _ ↦ fst_ite]
          exact m.keys_nodup
        labels_nodup := by
          rw [List.map_map]
          refine List.Nodup.map_on (fun e he e' he' h ↦ ?_) (List.Nodup.of_map _ m.keys_nodup)
          have hlabel : label (if e.1 = k then (k, v) else e).2 =
              label (if e'.1 = k then (k, v) else e').2 := h
          by_cases hek : e.1 = k
          · by_cases hek' : e'.1 = k
            · exact eq_of_key he he' (hek.trans hek'.symm)
            · rw [if_pos hek, if_neg hek'] at hlabel
              exact absurd hlabel.symm (hv e' he')
          · by_cases hek' : e'.1 = k
            · rw [if_neg hek, if_pos hek'] at hlabel
              exact absurd hlabel (hv e he)
            · rw [if_neg hek, if_neg hek'] at hlabel
              exact eq_of_label he he' hlabel }
  else none

/-- **An equal value is not replaced.** -/
theorem put_of_bound (h : (k, w) ∈ m.entries) (hlabel : label w = label v) :
    m.put k v = some m :=
  if_pos ⟨(k, w), h, rfl, hlabel⟩

/-- A new key with a new value is appended. -/
theorem put_of_new (hk : ∀ e ∈ m.entries, e.1 ≠ k) (hv : ∀ e ∈ m.entries, label e.2 ≠ label v) :
    ∃ m', m.put k v = some m' ∧ m'.entries = m.entries ++ [(k, v)] := by
  have hbound : ¬ ∃ e ∈ m.entries, e.1 = k ∧ label e.2 = label v := by
    intro h
    obtain ⟨e, he, -, hlabel⟩ := h
    exact hv e he hlabel
  rw [put, if_neg hbound, dif_pos hv, dif_pos hk]
  exact ⟨_, rfl, rfl⟩

/-- A new value is stored, whatever the key was bound to. -/
theorem exists_put (hv : ∀ e ∈ m.entries, label e.2 ≠ label v) :
    ∃ m', m.put k v = some m' ∧ ∀ e ∈ m'.entries, e = (k, v) ∨ e ∈ m.entries := by
  have hbound : ¬ ∃ e ∈ m.entries, e.1 = k ∧ label e.2 = label v := by
    intro h
    obtain ⟨e, he, -, hlabel⟩ := h
    exact hv e he hlabel
  rw [put, if_neg hbound, dif_pos hv]
  by_cases hk : ∀ e ∈ m.entries, e.1 ≠ k
  · rw [dif_pos hk]
    refine ⟨_, rfl, fun e he ↦ ?_⟩
    rcases List.mem_append.1 he with he | he
    · exact Or.inr he
    · exact Or.inl (List.mem_singleton.1 he)
  · rw [dif_neg hk]
    refine ⟨_, rfl, fun e he ↦ ?_⟩
    obtain ⟨e', he', rfl⟩ := List.mem_map.1 he
    by_cases hek : e'.1 = k
    · exact Or.inl (if_pos hek)
    · exact Or.inr ((if_neg hek).symm ▸ he')

end Put

end BiMap
