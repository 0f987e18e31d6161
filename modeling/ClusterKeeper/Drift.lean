/-!
Bringing an object in line with what is wanted of it, one aspect at a time, and telling whether
anything had to change.

    adjusted [a, b, c] x = (the object after every needed change, whether there was one)

Main statement: an object that no adjustment changes stays as it is (`adjusted_of_forall_none`).
-/

namespace ClusterKeeper

/-- One aspect of an object: the object brought in line, or nothing when it already is. -/
abbrev Adjustment (α : Type) := α → Option α

/-- Makes every adjustment in turn. -/
def adjusted {α : Type} (as : List (Adjustment α)) (x : α) : α × Bool :=
  as.foldl
    (fun (acc : α × Bool) a =>
      match a acc.1 with
      | some y => (y, true)
      | none => acc)
    (x, false)

theorem adjusted_of_forall_none {α : Type} {as : List (Adjustment α)} {x : α}
    (h : ∀ a ∈ as, a x = none) : adjusted as x = (x, false) := by
  suffices ∀ b, as.foldl (fun (acc : α × Bool) a =>
      match a acc.1 with
      | some y => (y, true)
      | none => acc) (x, b) = (x, b) from this false
  induction as with
  | nil => exact fun _ => rfl
  | cons a as ih =>
    intro b
    simp only [List.foldl_cons, h a List.mem_cons_self]
    exact ih (fun a' ha' => h a' (List.mem_cons_of_mem _ ha')) b

end ClusterKeeper
