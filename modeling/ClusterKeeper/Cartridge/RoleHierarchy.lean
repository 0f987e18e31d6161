import ClusterKeeper.SortedMap

/-!
Roles and the roles they depend on. Cartridge enables the dependencies of a role by itself, so two
lists of roles mean the same when their closures agree.

`reachable` follows dependencies from a list of roles. It expands a role at most once, since a role
leaves the hierarchy when its dependencies are pushed; what is left to do, the pending roles and
the hierarchy's entries together (`weight`), shrinks with every step. `normalized` adds, as long as
there is one, every role whose dependencies are all in the set; a role without dependencies is never
added that way.
-/

namespace ClusterKeeper

/-- A set of role names. -/
abbrev RoleSet := SortedMap Unit

/-- Every known role with the roles it depends on. -/
abbrev RoleHierarchy := SortedMap (List String)

namespace RoleHierarchy

/-- How many pushes the entries of a hierarchy may still cause. -/
def weight : Entries (List String) → Nat
  | [] => 0
  | (_, deps) :: es => deps.length + 1 + weight es

/-- The dependencies of a role and the other entries, when the role is known. -/
def extract (role : String) : Entries (List String) → Option (List String × Entries (List String))
  | [] => none
  | (r, deps) :: es =>
    if r = role then some (deps, es)
    else (extract role es).map fun (ds, rest) => (ds, (r, deps) :: rest)

theorem weight_extract {role : String} {es rest : Entries (List String)} {deps : List String}
    (h : extract role es = some (deps, rest)) : weight rest + deps.length < weight es := by
  induction es generalizing rest with
  | nil => simp [extract] at h
  | cons e es ih =>
    obtain ⟨r, ds⟩ := e
    rw [extract] at h
    split at h
    · cases h
      simp only [weight]
      omega
    · obtain ⟨⟨ds', rest'⟩, he, heq⟩ := Option.map_eq_some_iff.1 h
      cases heq
      have := ih he
      simp only [weight]
      omega

/-- Adds the pending roles and all they depend on to a set. -/
def follow (es : Entries (List String)) (pending : List String) (set : RoleSet) : RoleSet :=
  match pending with
  | [] => set
  | role :: pending =>
    if set.contains role then follow es pending set
    else
      match _h : extract role es with
      | none => follow es pending (set.insert role ())
      | some (deps, rest) => follow rest (deps ++ pending) (set.insert role ())
termination_by weight es + pending.length
decreasing_by
  all_goals simp only [List.length_cons, List.length_append]
  · omega
  · omega
  · have := weight_extract _h
    omega

/-- The roles of a list together with everything they depend on. -/
def reachable (h : RoleHierarchy) (roles : List String) : RoleSet :=
  follow h.entries roles .empty

/-- Whether a role is missing from a set that has all of its dependencies, at least one. -/
def Implied (set : RoleSet) (e : String × List String) : Prop :=
  set.contains e.1 = false ∧ e.2 ≠ [] ∧ ∀ d ∈ e.2, set.contains d = true

instance (set : RoleSet) (e : String × List String) : Decidable (Implied set e) :=
  inferInstanceAs (Decidable (_ ∧ _ ∧ _))

/-- The entries that a set implies. -/
def implied (set : RoleSet) (es : Entries (List String)) : Entries (List String) :=
  es.filter (Implied set ·)

/-- The entries that a set does not imply. -/
def waiting (set : RoleSet) (es : Entries (List String)) : Entries (List String) :=
  es.filter (¬ Implied set ·)

theorem length_waiting_lt {set : RoleSet} {es : Entries (List String)}
    (h : implied set es ≠ []) : (waiting set es).length < es.length := by
  refine Nat.lt_of_le_of_ne (List.length_filter_le _ es) fun hl => h ?_
  have hall := List.length_filter_eq_length_iff.1 hl
  exact List.filter_eq_nil_iff.2 fun e he => by simpa using hall e he

/-- Adds roles of a hierarchy that a set implies until it implies none. -/
def saturate (es : Entries (List String)) (set : RoleSet) : RoleSet :=
  if implied set es = [] then set
  else
    saturate (waiting set es) ((implied set es).foldl (fun acc e => acc.insert e.1 ()) set)
termination_by es.length
decreasing_by exact length_waiting_lt ‹_›

/-- The closure of a list of roles, with every role whose dependencies are all in it. -/
def normalized (h : RoleHierarchy) (roles : List String) : RoleSet :=
  saturate h.entries (reachable h roles)

/-- Whether two lists of roles enable the same roles. -/
def Agree (h : RoleHierarchy) (a b : List String) : Prop := normalized h a = normalized h b

instance (h : RoleHierarchy) (a b : List String) : Decidable (Agree h a b) :=
  inferInstanceAs (Decidable (_ = _))

end RoleHierarchy

end ClusterKeeper
