import ClusterKeeper.Cartridge.Failover
import ClusterKeeper.Cartridge.Sections
import ClusterKeeper.Proofs.SortedMap

/-!
Settings that are compared with what a topology reports. What was set compares as wanted: values are the
same as themselves, sections that are all there are a subset, and failover parameters satisfy themselves.
-/

namespace ClusterKeeper

namespace Json

mutual

/-- A value is the same as itself, whatever the numbers in it. -/
theorem same_refl : (j : Json) → j.same j = true
  | .null => rfl
  | .bool b => by simp [same]
  | .int i => by simp [same]
  | .float x => by simp [same, Double.same_refl]
  | .str s => by simp [same]
  | .arr items => by simp [same, sameItems_refl items]
  | .obj members => by simp [same, sameMembers_refl members]

theorem sameItems_refl : (items : List Json) → sameItems items items = true
  | [] => by simp [sameItems]
  | j :: js => by simp [sameItems, same_refl j, sameItems_refl js]

theorem sameMembers_refl : (members : List (String × Json)) → sameMembers members members = true
  | [] => by simp [sameMembers]
  | (k, j) :: ms => by simp [sameMembers, same_refl j, sameMembers_refl ms]

end

end Json

/-- Sections that are all there, with the same values, are a subset. -/
theorem Sections.subset_of_get? {wanted actual : Sections}
    (h : ∀ name value, wanted.get? name = some value → actual.get? name = some value) :
    wanted.subset actual = true := by
  rw [Sections.subset, List.all_eq_true]
  rintro ⟨name, value⟩ he
  rw [h name value (SortedMap.mem_entries.1 he)]
  exact value.same_refl

/-- Failover parameters satisfy themselves. -/
theorem FailoverParams.satisfiedBy_self (p : FailoverParams) : p.SatisfiedBy p := by
  refine ⟨rfl, rfl, fun _ => ⟨rfl, rfl, rfl, rfl, ?_⟩⟩
  rw [ProviderSatisfied]
  split <;> first | rfl | trivial

end ClusterKeeper
