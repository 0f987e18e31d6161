import ClusterKeeper.Cartridge.RoleHierarchy
import ClusterKeeper.Proofs.SortedMap
import Mathlib.Data.Multiset.AddSub
import Mathlib.Logic.Relation
import Mathlib.Order.Bounds.Basic

/-!
What the closures of a list of roles are. Both are told by loops that keep the hierarchy whole: a search takes
any pending role, and a new one leaves its dependencies pending (`Visits`); a round adds all roles that a set
implies (`Grows`). `reachable` and `normalized` take one course of these loops.

    search    (pending, set)  ──▶  (dependencies + pending, set + role)    the set has what is reached
    rounds    set             ──▶  set + the roles that it implies         the set is below all closed ones

No loop goes on for ever, whatever the hierarchy: a search has fewer roles that may still push something or
fewer pending ones, and a round has fewer roles that are missing. What a loop keeps is the same for each of its
courses (`Searching`, `Growing`), so that all of them end alike.

Main statement: `RoleHierarchy.closures_exact`.
-/

namespace ClusterKeeper

namespace RoleHierarchy

open Relation

variable {h : RoleHierarchy} {es rest : Entries (List String)} {roles deps : List String} {role : String}
  {set set' : RoleSet}

/-! ### Closed sets -/

/-- The roles that a role depends on; one that is not known depends on none. -/
def dependencies (h : RoleHierarchy) (role : String) : List String := (h.get? role).getD []

/-- A role depends on another one. -/
def DependsOn (h : RoleHierarchy) (role dep : String) : Prop := dep ∈ h.dependencies role

/-- A role is in a list, or is reached from one of the list along dependencies. -/
def Reached (h : RoleHierarchy) (roles : List String) (role : String) : Prop :=
  ∃ start ∈ roles, ReflTransGen h.DependsOn start role

/-- The names in a set of roles. -/
def names (set : RoleSet) : Set String := {role | set.contains role = true}

/-- A set has the roles of a list, the dependencies of each of its roles, and every known role that depends on
something and only on what is in the set. -/
structure Closed (h : RoleHierarchy) (roles : List String) (s : Set String) : Prop where
  has : ∀ role ∈ roles, role ∈ s
  follows : ∀ role ∈ s, ∀ dep, h.DependsOn role dep → dep ∈ s
  implies : ∀ role, h.dependencies role ≠ [] → (∀ dep ∈ h.dependencies role, dep ∈ s) → role ∈ s

@[simp] theorem mem_names : role ∈ names set ↔ set.contains role = true := Iff.rfl

@[simp] theorem mem_names_insert {new : String} : role ∈ names (set.insert new ()) ↔ role = new ∨ role ∈ names set :=
  SortedMap.contains_insert

theorem not_mem_names_empty : role ∉ names .empty := by simp [SortedMap.contains]

/-- A set of roles is told by its names. -/
theorem eq_of_names (hnames : names set = names set') : set = set' := by
  refine SortedMap.ext_get? fun role => ?_
  have hrole : set.contains role = true ↔ set'.contains role = true := Set.ext_iff.1 hnames role
  rw [SortedMap.contains, SortedMap.contains] at hrole
  cases hl : set.get? role <;> cases hr : set'.get? role <;> simp_all

theorem dependencies_of_mem (hentry : (role, deps) ∈ h.entries) : h.dependencies role = deps := by
  rw [dependencies, SortedMap.mem_entries.1 hentry]
  rfl

/-- A role that depends on something is known. -/
theorem mem_entries_of_ne_nil (hdeps : h.dependencies role ≠ []) : (role, h.dependencies role) ∈ h.entries := by
  rw [SortedMap.mem_entries]
  unfold dependencies at hdeps ⊢
  cases hknown : h.get? role with
  | none => simp [hknown] at hdeps
  | some deps => rfl

/-- A closed set has all that is reached. -/
theorem Closed.mem_of_reached {s : Set String} (hs : Closed h roles s) (hrole : Reached h roles role) : role ∈ s := by
  obtain ⟨start, hstart, hpath⟩ := hrole
  induction hpath with
  | refl => exact hs.has start hstart
  | tail _ hdep ih => exact hs.follows _ ih _ hdep

/-! ### Loops -/

/-- A loop can go from one state to another, where it ends. -/
def EndsIn {σ : Type} (step : σ → σ → Prop) (start last : σ) : Prop :=
  ReflTransGen step start last ∧ ∀ next, ¬step last next

/-- What each step keeps holds along a course. -/
theorem keeps_of_course {σ : Type} {step : σ → σ → Prop} {inv : σ → Prop} {start last : σ}
    (hcourse : ReflTransGen step start last) (hstart : inv start) (hstep : ∀ s s', step s s' → inv s → inv s') :
    inv last := by
  induction hcourse with
  | refl => exact hstart
  | tail _ hlast ih => exact hstep _ _ hlast ih

/-! ### Searching -/

/-- One turn of a search, whichever pending role is taken. A role that was met before is dropped; a new one
comes into the set, and its dependencies become pending. -/
inductive Visits (h : RoleHierarchy) : Multiset String × RoleSet → Multiset String × RoleSet → Prop
  | met {role : String} {pending : Multiset String} {set : RoleSet} (hmet : set.contains role = true) :
      Visits h (role ::ₘ pending, set) (pending, set)
  | new {role : String} {pending : Multiset String} {set : RoleSet} (hnew : set.contains role = false) :
      Visits h (role ::ₘ pending, set) (↑(h.dependencies role) + pending, set.insert role ())

/-- The entries whose roles are not in a set yet. -/
def unmet (set : RoleSet) (es : Entries (List String)) : Entries (List String) :=
  es.filter fun e => !set.contains e.1

theorem weight_le_of_sublist {fs : Entries (List String)} (hsub : es.Sublist fs) : weight es ≤ weight fs := by
  induction hsub with
  | slnil => exact Nat.le_refl _
  | cons e _ ih =>
    rw [weight]
    omega
  | cons_cons e _ ih =>
    rw [weight, weight]
    omega

theorem unmet_insert_sublist : (unmet (set.insert role ()) es).Sublist (unmet set es) := by
  refine List.monotone_filter_right es fun e he => ?_
  simp only [Bool.not_eq_true', ← Bool.not_eq_true] at he ⊢
  exact fun hset => he (SortedMap.contains_insert.2 (Or.inr hset))

/-- A new role takes with it what it pushes. -/
theorem weight_unmet_insert (hnew : set.contains role = false) :
    weight (unmet (set.insert role ()) es) + ((Entries.get? es role).getD []).length ≤ weight (unmet set es) := by
  induction es with
  | nil => exact Nat.le_refl _
  | cons e es ih =>
    rw [Entries.get?_cons, unmet, List.filter_cons, unmet, List.filter_cons]
    by_cases hrole : role = e.1
    · subst hrole
      have hmet : (set.insert e.1 ()).contains e.1 = true := SortedMap.contains_insert.2 (Or.inl rfl)
      have hle : weight (unmet (set.insert e.1 ()) es) ≤ weight (unmet set es) :=
        weight_le_of_sublist unmet_insert_sublist
      simp only [hmet, hnew, Bool.not_true, Bool.not_false, Bool.false_eq_true, if_true, if_false, Option.getD_some,
        weight]
      unfold unmet at hle
      omega
    · have hsame : (set.insert role ()).contains e.1 = set.contains e.1 := by
        rw [Bool.eq_iff_iff, SortedMap.contains_insert, or_iff_right (Ne.symm hrole)]
      rw [if_neg hrole, hsame]
      unfold unmet at ih
      split
      next => simpa only [weight] using by omega
      next => exact ih

/-- How much a search has still to do at most. -/
def toDo (h : RoleHierarchy) (s : Multiset String × RoleSet) : Nat := weight (unmet s.2 h.entries) + s.1.card

theorem Visits.toDo_lt {s s' : Multiset String × RoleSet} (hstep : h.Visits s s') : toDo h s' < toDo h s := by
  cases hstep with
  | met hmet => simp [toDo]
  | @new role pending set hnew =>
    have hweight : weight (unmet (set.insert role ()) h.entries) + (h.dependencies role).length ≤
        weight (unmet set h.entries) := weight_unmet_insert hnew
    simp only [toDo, Multiset.card_add, Multiset.coe_card, Multiset.card_cons]
    omega

/-- No search goes on for ever. -/
theorem wellFounded_visits (h : RoleHierarchy) : WellFounded (Function.swap h.Visits) :=
  Subrelation.wf Visits.toDo_lt (measure (toDo h)).wf

/-- A search ends when nothing is pending, and not before. -/
theorem not_visits_iff {s : Multiset String × RoleSet} : (∀ s', ¬h.Visits s s') ↔ s.1 = 0 := by
  obtain ⟨pending, set⟩ := s
  constructor
  · intro hend
    by_contra hpending
    obtain ⟨role, hrole⟩ := Multiset.exists_mem_of_ne_zero hpending
    obtain ⟨others, rfl⟩ := Multiset.exists_cons_of_mem hrole
    cases hset : set.contains role with
    | true => exact hend _ (.met hset)
    | false => exact hend _ (.new hset)
  · rintro rfl s' hstep
    generalize hs : ((0 : Multiset String), set) = s at hstep
    cases hstep <;> exact Multiset.zero_ne_cons (congrArg Prod.fst hs)

/-- What holds during a search for what a list of roles depends on. All that was met or is pending is reached, and
all that is asked for was met or is pending. -/
structure Searching (h : RoleHierarchy) (roles : List String) (s : Multiset String × RoleSet) : Prop where
  reached : ∀ role, role ∈ s.1 ∨ role ∈ names s.2 → Reached h roles role
  asked : ∀ role ∈ roles, role ∈ s.1 ∨ role ∈ names s.2
  followed : ∀ role ∈ names s.2, ∀ dep, h.DependsOn role dep → dep ∈ s.1 ∨ dep ∈ names s.2

theorem searching_start (h : RoleHierarchy) (roles : List String) : Searching h roles (↑roles, .empty) where
  reached role hrole := ⟨role, by simpa [SortedMap.contains] using hrole, .refl⟩
  asked role hrole := Or.inl hrole
  followed role hrole := absurd hrole not_mem_names_empty

theorem Visits.searching {s s' : Multiset String × RoleSet} (hstep : h.Visits s s') (hs : Searching h roles s) :
    Searching h roles s' := by
  obtain ⟨hreached, hasked, hfollowed⟩ := hs
  cases hstep with
  | @met role pending set hmet =>
    have hstays : ∀ role', role' ∈ role ::ₘ pending ∨ role' ∈ names set →
        role' ∈ pending ∨ role' ∈ names set := by
      rintro role' (hrole' | hrole')
      · rcases Multiset.mem_cons.1 hrole' with rfl | hrole'
        · exact Or.inr hmet
        · exact Or.inl hrole'
      · exact Or.inr hrole'
    exact ⟨fun role' hrole' => hreached role' (hrole'.imp_left (Multiset.mem_cons_of_mem ·)),
      fun role' hrole' => hstays role' (hasked role' hrole'),
      fun role' hrole' dep hdep => hstays dep (hfollowed role' hrole' dep hdep)⟩
  | @new role pending set hnew =>
    have hstays : ∀ role', role' ∈ role ::ₘ pending ∨ role' ∈ names set →
        role' ∈ ↑(h.dependencies role) + pending ∨ role' ∈ names (set.insert role ()) := by
      rintro role' (hrole' | hrole')
      · rcases Multiset.mem_cons.1 hrole' with rfl | hrole'
        · exact Or.inr (mem_names_insert.2 (Or.inl rfl))
        · exact Or.inl (Multiset.mem_add.2 (Or.inr hrole'))
      · exact Or.inr (mem_names_insert.2 (Or.inr hrole'))
    have hrole : Reached h roles role := hreached role (Or.inl (Multiset.mem_cons_self role pending))
    refine ⟨?_, fun role' hrole' => hstays role' (hasked role' hrole'), ?_⟩
    · rintro role' (hrole' | hrole')
      · rcases Multiset.mem_add.1 hrole' with hdep | hrole'
        · obtain ⟨start, hstart, hpath⟩ := hrole
          exact ⟨start, hstart, hpath.tail hdep⟩
        · exact hreached role' (Or.inl (Multiset.mem_cons_of_mem hrole'))
      · rcases mem_names_insert.1 hrole' with rfl | hrole'
        · exact hrole
        · exact hreached role' (Or.inr hrole')
    · intro role' hrole' dep hdep
      rcases mem_names_insert.1 hrole' with rfl | hrole'
      · exact Or.inl (Multiset.mem_add.2 (Or.inl hdep))
      · exact hstays dep (hfollowed role' hrole' dep hdep)

/-- A search that has ended has met what is reached, and nothing else. -/
theorem Searching.names_eq (hs : Searching h roles (0, set)) : names set = {role | Reached h roles role} := by
  refine Set.ext fun role => ⟨fun hrole => hs.reached role (Or.inr hrole), ?_⟩
  rintro ⟨start, hstart, hpath⟩
  induction hpath with
  | refl => exact (hs.asked start hstart).resolve_left (Multiset.notMem_zero _)
  | tail _ hdep ih => exact (hs.followed _ ih _ hdep).resolve_left (Multiset.notMem_zero _)

theorem get?_of_extract_eq_none (hextract : extract role es = none) : Entries.get? es role = none := by
  induction es with
  | nil => rfl
  | cons e es ih =>
    rw [extract] at hextract
    split at hextract
    · cases hextract
    next hne =>
      rw [Entries.get?_cons, if_neg (Ne.symm hne)]
      exact ih (Option.map_eq_none_iff.1 hextract)

/-- What is extracted is the entry of the role, and the entries of the others stay. -/
theorem get?_of_extract_eq_some (hextract : extract role es = some (deps, rest)) :
    Entries.get? es role = some deps ∧ ∀ other, other ≠ role → Entries.get? rest other = Entries.get? es other := by
  induction es generalizing rest with
  | nil => cases hextract
  | cons e es ih =>
    rw [extract] at hextract
    split at hextract
    next heq =>
      cases hextract
      rw [Entries.get?_cons, if_pos heq.symm]
      exact ⟨rfl, fun other hother => by rw [Entries.get?_cons, if_neg (heq ▸ hother)]⟩
    next hne =>
      obtain ⟨⟨deps', rest'⟩, hfound, heq⟩ := Option.map_eq_some_iff.1 hextract
      cases heq
      obtain ⟨hdeps, hothers⟩ := ih hfound
      rw [Entries.get?_cons, if_neg (Ne.symm hne)]
      exact ⟨hdeps, fun other hother => by rw [Entries.get?_cons, Entries.get?_cons, hothers other hother]⟩

theorem Visits.met_cons {pending : List String} (hmet : set.contains role = true) :
    h.Visits (↑(role :: pending), set) (↑pending, set) := by
  rw [← Multiset.cons_coe]
  exact .met hmet

theorem Visits.new_cons {pending : List String} (hnew : ¬set.contains role = true) :
    h.Visits (↑(role :: pending), set) (↑(h.dependencies role ++ pending), set.insert role ()) := by
  rw [← Multiset.cons_coe, ← Multiset.coe_add]
  exact .new (Bool.eq_false_iff.2 hnew)

/-- To follow dependencies is to search; the entries that are left are those of the roles that were not met. -/
theorem visits_follow (hes : ∀ role, set.contains role = false → Entries.get? es role = h.get? role) :
    ReflTransGen h.Visits (↑roles, set) (0, follow es roles set) := by
  fun_induction follow es roles set with
  | case1 es set => exact .refl
  | case2 es set role pending hmet ih => exact (ih hes).head (.met_cons hmet)
  | case3 es set role pending hnew hextract ih =>
    have hnone : h.dependencies role = [] := by
      rw [dependencies, ← hes role (Bool.eq_false_iff.2 hnew), get?_of_extract_eq_none hextract]
      rfl
    have hvisit : h.Visits (↑(role :: pending), set) (↑(h.dependencies role ++ pending), set.insert role ()) :=
      .new_cons hnew
    rw [hnone, List.nil_append] at hvisit
    refine (ih fun other hother => hes other ?_).head hvisit
    rw [← Bool.not_eq_true, SortedMap.contains_insert, not_or] at hother
    exact Bool.eq_false_iff.2 hother.2
  | case4 es set role pending hnew deps rest hextract ih =>
    obtain ⟨hdeps, hothers⟩ := get?_of_extract_eq_some hextract
    have hsome : h.dependencies role = deps := by
      rw [dependencies, ← hes role (Bool.eq_false_iff.2 hnew), hdeps]
      rfl
    have hvisit : h.Visits (↑(role :: pending), set) (↑(h.dependencies role ++ pending), set.insert role ()) :=
      .new_cons hnew
    rw [hsome] at hvisit
    refine (ih fun other hother => ?_).head hvisit
    rw [← Bool.not_eq_true, SortedMap.contains_insert, not_or] at hother
    rw [hothers other hother.1, hes other (Bool.eq_false_iff.2 hother.2)]

theorem visits_reachable (h : RoleHierarchy) (roles : List String) :
    ReflTransGen h.Visits (↑roles, .empty) (0, h.reachable roles) := visits_follow fun _ _ => rfl

/-- The roles of a list with everything they depend on are those that are reached from it. -/
theorem names_reachable (h : RoleHierarchy) (roles : List String) :
    names (h.reachable roles) = {role | Reached h roles role} :=
  (keeps_of_course (visits_reachable h roles) (searching_start h roles) fun _ _ hstep => hstep.searching).names_eq

/-- All searches end alike. -/
theorem endsIn_visits_iff {last : Multiset String × RoleSet} :
    EndsIn h.Visits (↑roles, .empty) last ↔ last = (0, h.reachable roles) := by
  constructor
  · rintro ⟨hcourse, hend⟩
    obtain ⟨pending, set⟩ := last
    obtain rfl : pending = 0 := not_visits_iff.1 hend
    have hs := keeps_of_course hcourse (searching_start h roles) fun _ _ hstep => hstep.searching
    rw [eq_of_names (hs.names_eq.trans (names_reachable h roles).symm)]
  · rintro rfl
    exact ⟨visits_reachable h roles, not_visits_iff.2 rfl⟩

/-! ### Growing -/

/-- A set with the roles of some entries. -/
def withRoles (set : RoleSet) (es : Entries (List String)) : RoleSet :=
  es.foldl (fun acc e => acc.insert e.1 ()) set

/-- One round: a set that implies roles becomes one that has them. -/
def Grows (h : RoleHierarchy) (set set' : RoleSet) : Prop :=
  implied set h.entries ≠ [] ∧ set' = withRoles set (implied set h.entries)

theorem mem_names_withRoles : role ∈ names (withRoles set es) ↔ (∃ deps, (role, deps) ∈ es) ∨ role ∈ names set := by
  rw [withRoles]
  induction es generalizing set with
  | nil => simp
  | cons e es ih =>
    rw [List.foldl_cons, ih, mem_names_insert]
    constructor
    · rintro (⟨deps, hmem⟩ | rfl | hset)
      · exact Or.inl ⟨deps, List.mem_cons_of_mem _ hmem⟩
      · exact Or.inl ⟨e.2, List.mem_cons_self⟩
      · exact Or.inr hset
    · rintro (⟨deps, hmem⟩ | hset)
      · rcases List.mem_cons.1 hmem with rfl | hmem
        · exact Or.inr (Or.inl rfl)
        · exact Or.inl ⟨deps, hmem⟩
      · exact Or.inr (Or.inr hset)

/-- What a set implies: a known role that it has not, which depends on something and only on what it has. -/
theorem mem_implied : (role, deps) ∈ implied set h.entries ↔
    h.dependencies role = deps ∧ deps ≠ [] ∧ role ∉ names set ∧ ∀ dep ∈ deps, dep ∈ names set := by
  rw [implied, List.mem_filter, decide_eq_true_iff, Implied, mem_names, Bool.not_eq_true]
  constructor
  · rintro ⟨hentry, hnew, hsome, hall⟩
    exact ⟨dependencies_of_mem hentry, hsome, hnew, hall⟩
  · rintro ⟨rfl, hsome, hnew, hall⟩
    exact ⟨mem_entries_of_ne_nil hsome, hnew, hsome, hall⟩

/-- Fewer roles are missing after a round. -/
theorem Grows.unmet_lt (hround : h.Grows set set') : (unmet set' h.entries).length < (unmet set h.entries).length := by
  obtain ⟨hsome, rfl⟩ := hround
  obtain ⟨⟨role, deps⟩, himplied⟩ := List.exists_mem_of_ne_nil _ hsome
  have hentry : (role, deps) ∈ h.entries := (List.mem_filter.1 himplied).1
  obtain ⟨_, _, hnew, _⟩ := mem_implied.1 himplied
  have hsub : (unmet (withRoles set (implied set h.entries)) h.entries).Sublist (unmet set h.entries) := by
    refine List.monotone_filter_right _ fun e he => ?_
    simp only [Bool.not_eq_true', ← Bool.not_eq_true] at he ⊢
    exact fun hset => he (mem_names_withRoles.2 (Or.inr hset))
  refine Nat.lt_of_le_of_ne hsub.length_le fun hlength => ?_
  have hmissing : (role, deps) ∈ unmet set h.entries := by
    simpa [unmet, hentry] using hnew
  rw [← hsub.eq_of_length hlength, unmet, List.mem_filter] at hmissing
  have hnow : role ∈ names (withRoles set (implied set h.entries)) := mem_names_withRoles.2 (Or.inl ⟨deps, himplied⟩)
  rw [mem_names.1 hnow] at hmissing
  exact absurd hmissing.2 Bool.false_ne_true

/-- There are no rounds for ever. -/
theorem wellFounded_grows (h : RoleHierarchy) : WellFounded (Function.swap h.Grows) :=
  Subrelation.wf Grows.unmet_lt (measure fun set => (unmet set h.entries).length).wf

/-- The rounds end when nothing is implied, and not before. -/
theorem not_grows_iff : (∀ set', ¬h.Grows set set') ↔ implied set h.entries = [] := by
  constructor
  · intro hend
    by_contra hsome
    exact hend _ ⟨hsome, rfl⟩
  · rintro hnone set' ⟨hsome, _⟩
    exact hsome hnone

/-- What holds between rounds. The dependencies of all that is in the set are in it, and what is in it is in every
closed set. -/
structure Growing (h : RoleHierarchy) (roles : List String) (set : RoleSet) : Prop where
  has : ∀ role ∈ roles, role ∈ names set
  follows : ∀ role ∈ names set, ∀ dep, h.DependsOn role dep → dep ∈ names set
  least : ∀ s, Closed h roles s → names set ⊆ s

theorem growing_reachable (h : RoleHierarchy) (roles : List String) : Growing h roles (h.reachable roles) := by
  refine ⟨fun role hrole => ?_, fun role hrole dep hdep => ?_, fun s hs role hrole => ?_⟩
  · rw [names_reachable]
    exact ⟨role, hrole, .refl⟩
  · rw [names_reachable] at hrole ⊢
    obtain ⟨start, hstart, hpath⟩ := hrole
    exact ⟨start, hstart, hpath.tail hdep⟩
  · rw [names_reachable] at hrole
    exact hs.mem_of_reached hrole

/-- A role that is implied brings nothing new with it: its dependencies were there before. -/
theorem Grows.growing (hround : h.Grows set set') (hset : Growing h roles set) : Growing h roles set' := by
  obtain ⟨_, rfl⟩ := hround
  refine ⟨fun role hrole => mem_names_withRoles.2 (Or.inr (hset.has role hrole)), fun role hrole dep hdep => ?_,
    fun s hs role hrole => ?_⟩
  · refine mem_names_withRoles.2 (Or.inr ?_)
    rcases mem_names_withRoles.1 hrole with ⟨deps, himplied⟩ | hrole
    · obtain ⟨rfl, _, _, hall⟩ := mem_implied.1 himplied
      exact hall dep hdep
    · exact hset.follows role hrole dep hdep
  · rcases mem_names_withRoles.1 hrole with ⟨deps, himplied⟩ | hrole
    · obtain ⟨rfl, hsome, _, hall⟩ := mem_implied.1 himplied
      exact hs.implies role hsome fun dep hdep => hset.least s hs (hall dep hdep)
    · exact hset.least s hs hrole

/-- A set that implies nothing more is the least closed one. -/
theorem Growing.isLeast (hset : Growing h roles set) (hnone : implied set h.entries = []) :
    IsLeast {s | Closed h roles s} (names set) := by
  refine ⟨⟨hset.has, hset.follows, fun role hsome hall => ?_⟩, fun s hs => hset.least s hs⟩
  by_contra hnew
  have himplied : (role, h.dependencies role) ∈ implied set h.entries := mem_implied.2 ⟨rfl, hsome, hnew, hall⟩
  rw [hnone] at himplied
  exact List.not_mem_nil himplied

/-- Entries of roles that are in the set are not implied. -/
theorem implied_filter {keep : String × List String → Bool}
    (hkeep : ∀ e ∈ h.entries, keep e = false → set.contains e.1 = true) :
    implied set (h.entries.filter keep) = implied set h.entries := by
  rw [implied, implied, List.filter_filter]
  refine List.filter_congr fun e he => ?_
  cases hk : keep e with
  | true => exact Bool.and_true _
  | false => simp [Implied, hkeep e he hk]

/-- To saturate a set is to go on in rounds; the entries that were given up are those of roles in the set. -/
theorem endsIn_saturate {keep : String × List String → Bool} (hes : es = h.entries.filter keep)
    (hkeep : ∀ e ∈ h.entries, keep e = false → set.contains e.1 = true) : EndsIn h.Grows set (saturate es set) := by
  fun_induction saturate es set generalizing keep with
  | case1 es set hnone =>
    rw [hes, implied_filter hkeep] at hnone
    exact ⟨.refl, not_grows_iff.2 hnone⟩
  | case2 es set hsome ih =>
    have hsame : implied set es = implied set h.entries := hes ▸ implied_filter hkeep
    have hround : h.Grows set (withRoles set (implied set es)) := ⟨hsame ▸ hsome, by rw [hsame]⟩
    have hwaiting : waiting set es = h.entries.filter fun e => decide (¬Implied set e) && keep e := by
      rw [waiting, hes, List.filter_filter]
    have hgiven : ∀ e ∈ h.entries, (decide (¬Implied set e) && keep e) = false →
        (withRoles set (implied set es)).contains e.1 = true := by
      -- an entry is given up for a role that was there, or for one that comes in with this round
      intro e he hgone
      refine mem_names_withRoles.2 ?_
      rcases Bool.and_eq_false_iff.1 hgone with himplied | hbefore
      · rw [decide_eq_false_iff_not, not_not] at himplied
        refine Or.inl ⟨e.2, ?_⟩
        rw [hsame]
        exact List.mem_filter.2 ⟨he, decide_eq_true himplied⟩
      · exact Or.inr (hkeep e he hbefore)
    obtain ⟨hcourse, hend⟩ := ih hwaiting hgiven
    exact ⟨hcourse.head hround, hend⟩

theorem endsIn_normalized (h : RoleHierarchy) (roles : List String) :
    EndsIn h.Grows (h.reachable roles) (h.normalized roles) := by
  have hall : h.entries = h.entries.filter fun _ => true := by simp
  refine endsIn_saturate hall ?_
  intro e _ hgone
  cases hgone

theorem growing_normalized (h : RoleHierarchy) (roles : List String) : Growing h roles (h.normalized roles) :=
  keeps_of_course (endsIn_normalized h roles).1 (growing_reachable h roles) fun _ _ hround => hround.growing

/-- The closure of a list of roles is the least closed set. -/
theorem isLeast_normalized (h : RoleHierarchy) (roles : List String) :
    IsLeast {s | Closed h roles s} (names (h.normalized roles)) :=
  (growing_normalized h roles).isLeast (not_grows_iff.1 (endsIn_normalized h roles).2)

/-- All rounds end alike. -/
theorem endsIn_grows_iff : EndsIn h.Grows (h.reachable roles) set ↔ set = h.normalized roles := by
  constructor
  · rintro ⟨hcourse, hend⟩
    have hset := keeps_of_course hcourse (growing_reachable h roles) fun _ _ hround => hround.growing
    exact eq_of_names ((hset.isLeast (not_grows_iff.1 hend)).unique (isLeast_normalized h roles))
  · rintro rfl
    exact endsIn_normalized h roles

/-- For every hierarchy, whatever circles, roles that depend on themselves, repeated and unknown names it has, and
every list of roles: no search and no rounds go on for ever, and those that begin with the list end in its two
closures; the first is what is reached from the list, and the second is the least closed set. -/
theorem closures_exact (h : RoleHierarchy) (roles : List String) :
    (WellFounded (Function.swap h.Visits) ∧
      ∀ last, EndsIn h.Visits (↑roles, .empty) last ↔ last = (0, h.reachable roles)) ∧
    (WellFounded (Function.swap h.Grows) ∧
      ∀ last, EndsIn h.Grows (h.reachable roles) last ↔ last = h.normalized roles) ∧
    names (h.reachable roles) = {role | Reached h roles role} ∧
    IsLeast {s | Closed h roles s} (names (h.normalized roles)) :=
  ⟨⟨wellFounded_visits h, fun _ => endsIn_visits_iff⟩, ⟨wellFounded_grows h, fun _ => endsIn_grows_iff⟩,
    names_reachable h roles, isLeast_normalized h roles⟩

end RoleHierarchy

end ClusterKeeper
