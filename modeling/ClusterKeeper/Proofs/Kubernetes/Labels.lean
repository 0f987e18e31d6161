import ClusterKeeper.Kubernetes.Labels
import ClusterKeeper.Proofs.Json.Leaves
import ClusterKeeper.Proofs.SortedMap

/-!
Labels as they are selected by, and ordinals as they are read from labels.

Main statement: the text of an integer of 32 bits is read as that integer (`readInt32?_integerText`).
-/

namespace ClusterKeeper

/-- The value of digits that were written, read character by character. -/
theorem foldl_toDigits (n : Nat) :
    (Nat.toDigits 10 n).foldl (fun n c => n * 10 + (c.toNat - '0'.toNat)) 0 = n := by
  have hdecimal : (Json.decimal n).foldl (fun n d => n * 10 + d) 0 = n := Json.ofDigits_decimal n
  rwa [Json.decimal, List.foldl_map] at hdecimal

/-- The text of an integer of 32 bits is read as that integer. -/
theorem readInt32?_integerText {i : Int} (hi : -0x80000000 ≤ i ∧ i < 0x80000000) :
    readInt32? (Labels.integerText i) = some i := by
  have hdigits : ∀ c ∈ Nat.toDigits 10 i.natAbs, c.isDigit :=
    fun c hc => Nat.isDigit_of_mem_toDigits (by decide) (by decide) hc
  have hwritten : ¬(Nat.toDigits 10 i.natAbs = [] ∨
      (!(Nat.toDigits 10 i.natAbs).all Char.isDigit) = true) := by
    rintro (hnil | hall)
    · exact Nat.toDigits_ne_nil hnil
    · rw [List.all_eq_true.2 hdigits] at hall
      cases hall
  rw [readInt32?, Labels.integerText, String.toList_ofList, Json.integer]
  by_cases hneg : i < 0
  · rw [if_pos hneg]
    simp only [foldl_toDigits, if_neg hwritten, if_true]
    have hvalue : -Int.ofNat i.natAbs = i := by
      rw [Int.ofNat_eq_natCast]
      omega
    rw [hvalue, if_pos hi]
  · rw [if_neg hneg]
    split
    next heq =>
      split at heq
      next ds hds => exact absurd (hdigits '+' (hds ▸ List.mem_cons_self)) (by decide)
      next ds hds => exact absurd (hdigits '-' (hds ▸ List.mem_cons_self)) (by decide)
      next =>
        obtain ⟨rfl, rfl⟩ := Prod.mk.inj heq
        have hvalue : Int.ofNat i.natAbs = i := by
          rw [Int.ofNat_eq_natCast]
          omega
        simp only [foldl_toDigits, if_neg hwritten]
        rw [if_neg Bool.false_ne_true, hvalue, if_pos hi]

/-- What is read as an integer of 32 bits is one. -/
theorem inRange_of_readInt32? {s : String} {i : Int} (h : readInt32? s = some i) :
    -0x80000000 ≤ i ∧ i < 0x80000000 := by
  rw [readInt32?] at h
  dsimp only at h
  rw [Option.ite_none_left_eq_some, Option.ite_none_right_eq_some] at h
  obtain ⟨_, hrange, hvalue⟩ := h
  exact Option.some.inj hvalue ▸ hrange

namespace Labels

/-- Labels match a selector when they have all its values. -/
theorem matches_iff {labels : Option Labels} {selector : Labels} :
    Matches labels selector ↔
      ∀ k v, selector.get? k = some v → labels.bind (·.get? k) = some v := by
  refine ⟨fun h k v hk => h (k, v) (SortedMap.mem_entries.2 hk), fun h e he => ?_⟩
  exact h e.1 e.2 (SortedMap.mem_entries.1 he)

theorem Matches.get? {labels : Option Labels} {selector : Labels} {k v : String}
    (h : Matches labels (selector.insert k v)) : labels.bind (·.get? k) = some v :=
  matches_iff.1 h k v SortedMap.get?_insert_self

/-- Labels that match a selector match it without the pair of a key that is new to it. -/
theorem Matches.of_insert {labels : Option Labels} {selector : Labels} {k v : String}
    (h : Matches labels (selector.insert k v)) (hk : selector.get? k = none) : Matches labels selector := by
  rw [matches_iff] at h ⊢
  intro k' v' hk'
  refine h k' v' ?_
  rw [SortedMap.get?_insert_of_ne, hk']
  rintro rfl
  cases hk.symm.trans hk'

theorem matches_insert {labels : Option Labels} {selector : Labels} {k v : String}
    (h : Matches labels selector) (hk : labels.bind (·.get? k) = some v) :
    Matches labels (selector.insert k v) := by
  rw [matches_iff] at h ⊢
  intro k' v' hk'
  rw [SortedMap.get?_insert] at hk'
  split at hk'
  next heq =>
    rw [heq, hk]
    exact hk'
  next => exact h k' v' hk'

/-- What belongs to a replicaset belongs to its role. -/
theorem matches_roleSelector {labels : Option Labels} {cluster role : String} {ordinal : Int}
    (h : Matches labels (ordinalSelector cluster role ordinal)) : Matches labels (roleSelector cluster role) := by
  refine h.of_insert ?_
  rw [roleSelector, SortedMap.get?_insert_of_ne (by decide), clusterSelector,
    SortedMap.get?_insert_of_ne (by decide), SortedMap.get?_empty]

/-- The last one of several sets of labels wins. -/
theorem get?_merge_last {sets : List Labels} {last : Labels} {k v : String} (h : last.get? k = some v) :
    (merge (sets ++ [last])).get? k = some v := by
  rw [merge, List.foldl_append, List.foldl_cons, List.foldl_nil]
  exact SortedMap.get?_union_right h

end Labels

end ClusterKeeper
