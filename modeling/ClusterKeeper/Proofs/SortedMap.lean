import ClusterKeeper.SortedMap
import Mathlib.Data.List.Nodup
import Mathlib.Data.List.Perm.Basic
import Mathlib.Data.List.Lattice

/-!
Maps as functions from keys to values. A map is told by the values of its keys (`ext_get?`), so what an
insertion and a union do is told by what they do to these (`get?_insert`, `get?_union`).
-/

namespace ClusterKeeper

namespace Entries

variable {α : Type} {es : Entries α} {k k' : String} {v : α}

@[simp] theorem get?_nil : get? ([] : Entries α) k = none := rfl

theorem get?_cons {e : String × α} : get? (e :: es) k = if k = e.1 then some e.2 else get? es k := by
  obtain ⟨k', v⟩ := e
  rw [get?, List.lookup_cons]
  by_cases h : k = k'
  · rw [beq_iff_eq.2 h, if_pos h]
  · rw [beq_eq_false_iff_ne.2 h, if_neg h, get?]

theorem get?_insert : get? (insert k v es) k' = if k' = k then some v else get? es k' := by
  induction es with
  | nil => rw [insert, get?_cons]
  | cons e es ih =>
    rw [insert]
    split
    · rw [get?_cons]
    · split
      next heq =>
        rw [get?_cons, get?_cons, ← heq]
        split <;> rfl
      next hne =>
        rw [get?_cons, get?_cons, ih]
        by_cases hk : k' = e.1
        · rw [if_pos hk, if_pos hk, if_neg fun h => hne (h.symm.trans hk)]
        · rw [if_neg hk, if_neg hk]

/-- In a list in order the value of a key is that of its one entry. -/
theorem get?_eq_some_iff (h : es.Ordered) : get? es k = some v ↔ (k, v) ∈ es := by
  induction es with
  | nil => simp
  | cons e es ih =>
    obtain ⟨hhead, htail⟩ := List.pairwise_cons.1 h
    rw [get?_cons, List.mem_cons]
    split
    next heq =>
      constructor
      · intro hv
        exact Or.inl (Prod.ext heq (Option.some.inj hv).symm)
      · rintro (hv | hmem)
        · exact congrArg (fun e => some e.2) hv.symm
        · exact absurd (heq ▸ hhead (k, v) hmem) (String.lt_irrefl k)
    next hne =>
      rw [ih htail]
      exact ⟨Or.inr, fun hv => hv.resolve_left fun heq => hne (congrArg Prod.fst heq)⟩

theorem nodup_keys_of_ordered (h : es.Ordered) : (es.map Prod.fst).Nodup := by
  refine List.pairwise_map.2 (List.Pairwise.imp (fun {a b} hlt heq => ?_) h)
  rw [heq] at hlt
  exact String.lt_irrefl _ hlt

theorem nodup_of_ordered (h : es.Ordered) : es.Nodup := (nodup_keys_of_ordered h).of_map Prod.fst

theorem get?_eq_none (h : k ∉ es.map Prod.fst) : get? es k = none := by
  induction es with
  | nil => rfl
  | cons e es ih =>
    rw [List.map_cons, List.mem_cons, not_or] at h
    rw [get?_cons, if_neg h.1, ih h.2]

/-- Entries with different keys that are put in one after another. -/
theorem get?_foldl_insert (h : (es.map Prod.fst).Nodup) (fs : Entries α) :
    get? (es.foldl (fun acc e => insert e.1 e.2 acc) fs) k = (get? es k).or (get? fs k) := by
  induction es generalizing fs with
  | nil => rfl
  | cons e es ih =>
    rw [List.map_cons, List.nodup_cons] at h
    rw [List.foldl_cons, ih h.2, get?_insert, get?_cons]
    split
    next heq =>
      -- the keys that follow differ, so the entry is not overwritten
      rw [get?_eq_none (heq ▸ h.1)]
      rfl
    next => rfl

theorem get?_sort (h : (es.map Prod.fst).Nodup) : get? (sort es) k = get? es k := by
  rw [sort, get?_foldl_insert h, get?_nil, Option.or_none]

end Entries

namespace SortedMap

variable {α : Type} {m n : SortedMap α} {k k' : String} {v : α}

@[simp] theorem get?_empty : (empty : SortedMap α).get? k = none := rfl

@[simp] theorem get?_insert : (m.insert k v).get? k' = if k' = k then some v else m.get? k' :=
  Entries.get?_insert

theorem contains_insert : (m.insert k v).contains k' = true ↔ k' = k ∨ m.contains k' = true := by
  rw [contains, get?_insert]
  split <;> simp_all [contains]

theorem get?_insert_self : (m.insert k v).get? k = some v := by simp

theorem get?_insert_of_ne (h : k' ≠ k) : (m.insert k v).get? k' = m.get? k' := by simp [h]

theorem mem_entries : (k, v) ∈ m.entries ↔ m.get? k = some v := (Entries.get?_eq_some_iff m.ordered).symm

theorem mem_values : v ∈ m.values ↔ ∃ k, m.get? k = some v := by
  rw [values, List.mem_map]
  exact ⟨fun ⟨e, he, hv⟩ => ⟨e.1, mem_entries.1 (hv ▸ he)⟩, fun ⟨k, hk⟩ => ⟨(k, v), mem_entries.2 hk, rfl⟩⟩

/-- Maps in which all keys have the same values are equal. -/
theorem ext_get? (h : ∀ k, m.get? k = n.get? k) : m = n := by
  have hmem : ∀ e, e ∈ m.entries ↔ e ∈ n.entries := by
    rintro ⟨k, v⟩
    rw [mem_entries, mem_entries, h]
  have hperm : m.entries.Perm n.entries :=
    (List.perm_ext_iff_of_nodup (Entries.nodup_of_ordered m.ordered)
      (Entries.nodup_of_ordered n.ordered)).2 hmem
  exact ext (List.Perm.eq_of_pairwise (fun _ _ _ _ hab hba => absurd hba (String.lt_asymm hab)) m.ordered
    n.ordered hperm)

theorem entries_union :
    (m.union n).entries = n.entries.foldl (fun acc e => Entries.insert e.1 e.2 acc) m.entries :=
  (List.foldl_hom SortedMap.entries fun _ _ => rfl).symm

/-- In a union the second map counts. -/
theorem get?_union : (m.union n).get? k = (n.get? k).or (m.get? k) := by
  rw [get?, entries_union, Entries.get?_foldl_insert (Entries.nodup_keys_of_ordered n.ordered)]
  rfl

/-- What a map has already does not change it. -/
theorem union_eq_left (h : ∀ k v, n.get? k = some v → m.get? k = some v) : m.union n = m := by
  refine ext_get? fun k => ?_
  rw [get?_union]
  cases hk : n.get? k with
  | none => rfl
  | some v => rw [h k v hk]; rfl

theorem get?_union_right (h : n.get? k = some v) : (m.union n).get? k = some v := by
  rw [get?_union, h]
  rfl

end SortedMap

end ClusterKeeper
