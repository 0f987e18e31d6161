import ClusterKeeper.Proofs.Cartridge.RoleClosure

/-!
When two lists of roles agree: each of them enables the other (`RoleHierarchy.agree_iff`). A list enables what is
in its closure, and since the closure is the least closed set, it enables nothing more through what it enables.

No list but the empty one agrees with the empty list (`RoleHierarchy.agree_nil_iff`), whatever the hierarchy: a
role is only implied by dependencies that are there.
-/

namespace ClusterKeeper

namespace RoleHierarchy

variable {h : RoleHierarchy} {roles a b : List String} {role : String}

/-- The roles of a list enable those of another one: all of these are in the closure of the first. -/
def Enables (h : RoleHierarchy) (a b : List String) : Prop := ∀ role ∈ b, (h.normalized a).contains role = true

theorem enables_of_subset (hsub : b ⊆ a) : h.Enables a b :=
  fun role hrole => (growing_normalized h a).has role (hsub hrole)

/-- The closure of a list that is enabled is in the closure of the list that enables it. -/
theorem enables_iff : h.Enables a b ↔ names (h.normalized b) ⊆ names (h.normalized a) := by
  constructor
  · intro henables
    have hclosed : Closed h a (names (h.normalized a)) := (isLeast_normalized h a).1
    have hclosed' : Closed h b (names (h.normalized a)) := ⟨henables, hclosed.follows, hclosed.implies⟩
    exact (isLeast_normalized h b).2 hclosed'
  · intro hsub role hrole
    exact hsub ((growing_normalized h b).has role hrole)

/-- Lists agree when each enables the other. -/
theorem agree_iff : h.Agree a b ↔ h.Enables b a ∧ h.Enables a b := by
  rw [enables_iff, enables_iff, Agree]
  constructor
  · intro hsame
    rw [hsame]
    exact ⟨subset_rfl, subset_rfl⟩
  · rintro ⟨hab, hba⟩
    exact eq_of_names (hab.antisymm hba)

/-- The empty set is closed when no roles are asked for. -/
theorem closed_nil_empty (h : RoleHierarchy) : Closed h [] ∅ where
  has _ hrole := absurd hrole List.not_mem_nil
  follows _ hrole := absurd hrole (Set.notMem_empty _)
  implies role hsome hall := by
    obtain ⟨dep, hdep⟩ := List.exists_mem_of_ne_nil _ hsome
    exact hall dep hdep

/-- Only the empty list agrees with the empty list. -/
theorem agree_nil_iff : h.Agree roles [] ↔ roles = [] := by
  rw [agree_iff]
  constructor
  · rintro ⟨henables, _⟩
    refine List.eq_nil_iff_forall_not_mem.2 fun role hrole => ?_
    exact (isLeast_normalized h []).2 (closed_nil_empty h) (henables role hrole)
  · rintro rfl
    exact ⟨enables_of_subset (List.Subset.refl _), enables_of_subset (List.Subset.refl _)⟩

end RoleHierarchy

end ClusterKeeper
