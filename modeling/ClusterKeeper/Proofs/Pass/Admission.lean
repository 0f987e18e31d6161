import ClusterKeeper.Proofs.Pass.ClusterWalk
import ClusterKeeper.Proofs.Pass.Conclusion
import ClusterKeeper.Proofs.Pass.ConfigWalk
import ClusterKeeper.Proofs.Pass.RoleWalk

/-!
What passes are let do. However a pass is answered, each request that changes a topology or makes a
StatefulSet is made behind its gate, as long as the store keeps the statuses that it takes; nothing is made
for a role that is being deleted, and nothing is done about a cluster that is being deleted but that its
phase is written.

Main statement: `Passes.admitted`.
-/

namespace ClusterKeeper

open Program

/-- A pass was made over the object of a key, of one of the three kinds, and this was said in it. -/
inductive Passes (key : ObjectKey) : Kind → Talk Surroundings → Prop
  | cluster {t r c} : (Pass.run ClusterPass.steps (ClusterPass.start key)).Goes [] t (r, c) →
      Passes key .cluster t
  | role {t r c} : (Pass.run RolePass.steps (MemberPass.start key)).Goes [] t (r, c) → Passes key .role t
  | config {t r c} : (Pass.run ConfigPass.steps (MemberPass.start key)).Goes [] t (r, c) →
      Passes key .cartridgeConfig t

variable {key : ObjectKey} {k : Kind} {t : Talk Surroundings}

/-! ### Gates -/

theorem persist_gated {C : Type} [PassState C k.Object] [CustomResource k.Object]
    {rule : Talk Surroundings → Request → Prop}
    (hwrite : ∀ o : k.Object, CustomResource.replaceStatus o = Attempt.replaceStatus k o)
    (hrule : ∀ t (o : k.Object), rule t (.store (.replaceStatus k o))) (c : C) :
    KeepsOr rule (Pass.persist c) (fun _ _ => True) (fun _ _ => True) t := by
  refine Pass.persist_keeps fun o _ => ?_
  rw [hwrite, Attempt.replaceStatus, keepsOr_store]
  exact ⟨hrule t o, fun _ => trivial, fun _ => trivial⟩

theorem Passes.gated (h : Passes key k t) (ht : t.TakesStatus) : t.Obeys (Gated key) := by
  cases h with
  | cluster hrun =>
    have hkeeps := Pass.keeps_run ((ClusterPass.walk_keeps key).mono fun t r _ =>
      persist_gated (k := .cluster) (fun _ => rfl) (fun _ _ => trivial) r.2.2)
    exact (hkeeps.of_goes hrun).2 trivial
  | role hrun =>
    have hkeeps := Pass.keeps_run ((RolePass.walk_keeps key).mono fun t r _ =>
      persist_gated (k := .role) (fun _ => rfl) (fun _ _ => trivial) r.2.2)
    exact (hkeeps.of_goes hrun).2 trivial
  | config hrun =>
    have hkeeps := Pass.keeps_run ((ConfigPass.walk_keeps key).mono fun t r _ =>
      persist_gated (k := .cartridgeConfig) (fun _ => rfl) (fun _ _ _ => trivial) r.2.2)
    exact ((hkeeps.of_goes hrun).2 trivial).of_ifTakesStatus ht

/-! ### Deletion -/

/-- Nothing is made for a role that is being deleted. -/
theorem not_makes_of_deleting {role : Role} (hobeys : t.Obeys (Gated key)) (hloads : t.Loads .role key role)
    (hdeleting : role.metadata.isDeleting = true) :
    ∀ e ∈ t, ∀ s, e.ask ≠ .store (.create .statefulSet s) := by
  rintro e he s hask
  obtain ⟨later, earlier, rfl⟩ := List.append_of_mem he
  have hgate := Talk.obeys_of_append hobeys
  rw [hask] at hgate
  obtain ⟨role', hloads', hstays⟩ := hgate
  have hread := (hloads' (.ok (some role'))).2 rfl
  have hsame := (hloads _).1 (List.mem_append_right later (List.mem_cons_of_mem e hread))
  obtain rfl : role' = role := Option.some.inj (Except.ok.inj hsame)
  exact Bool.false_ne_true (hstays.symm.trans hdeleting)

/-- A cluster that is being deleted is read, and its phase is written. -/
theorem ClusterPass.looks_of_deleting {cluster : Cluster} {r : PassResult} {c : ClusterPass}
    (hrun : (Pass.run steps (start key)).Goes [] t (r, c)) (hloads : t.Loads .cluster key cluster)
    (hdeleting : cluster.metadata.isDeleting = true) :
    ∀ e ∈ t, e.ask.Looks ∨ e.ask = .store (.replaceStatus .cluster (cluster.setPhase .pending)) := by
  obtain ⟨t₁, outcome, c₁, t₂, written, level, message, hwalk, hpersist, rfl, _⟩ :=
    Pass.exists_of_goes_run (k := .cluster) hrun
  have hwrites := Pass.writesStatus_of_goes (k := .cluster) (fun _ => rfl) hpersist
  have hskips : t₁.Extends (Turn.Skips .cluster) (⟨Request.log level message, ()⟩ :: t₂) :=
    ((Pass.closes_of_writesStatus hwrites).cons (Or.inl ⟨level, message, rfl⟩)).imp fun _ he => he.skips
  have hends : Ends key t₁ outcome c₁ := ((walk_keeps key).of_goes hwalk).1
  have hstays : ¬Stays t₁ key := by
    rintro ⟨k, hk, hlives⟩
    obtain rfl := (hk.extends hskips).unique hloads
    exact Bool.false_ne_true (hlives.symm.trans hdeleting)
  cases hends with
  | gone hnone => cases (hnone.extends hskips).unique hloads
  | unread herror => cases (herror.extends hskips).unique hloads
  | again h _ => exact absurd h hstays
  | rests h _ => exact absurd h hstays
  | ready h => exact absurd h hstays
  | @deleting k hk _ hlooks =>
    obtain rfl : k = cluster := (hk.extends hskips).unique hloads
    have hread : ∀ e ∈ t₁, e.ask.Looks ∨ e.ask = .store (.replaceStatus .cluster (k.setPhase .pending)) :=
      fun e he => Or.inl (hlooks e he)
    refine List.forall_mem_cons.2 ⟨Or.inl (Or.inl ⟨level, message, rfl⟩), ?_⟩
    cases hwrites with
    | absent _ => exact hread
    | vanished _ _ => exact hread
    | written ho _ =>
      obtain rfl := Option.some.inj ho
      exact List.forall_mem_cons.2 ⟨Or.inr rfl, hread⟩
    | refused ho _ =>
      obtain rfl := Option.some.inj ho
      exact List.forall_mem_cons.2 ⟨Or.inr rfl, hread⟩

/-! ### Passes -/

/-- However a pass is answered, each of its requests passes its gate if the store keeps the statuses that
it takes. A pass over a role that is being deleted makes no StatefulSet. A pass over a cluster that is being
deleted reads it and writes its phase, and tells the log. -/
theorem Passes.admitted (h : Passes key k t) (ht : t.TakesStatus) :
    t.Obeys (Gated key) ∧
      (k = .role → ∀ role : Role, t.Loads .role key role → role.metadata.isDeleting = true →
        ∀ e ∈ t, ∀ s, e.ask ≠ .store (.create .statefulSet s)) ∧
      (k = .cluster → ∀ cluster : Cluster, t.Loads .cluster key cluster →
        cluster.metadata.isDeleting = true →
        ∀ e ∈ t, e.ask.Looks ∨ e.ask = .store (.replaceStatus .cluster (cluster.setPhase .pending))) := by
  refine ⟨h.gated ht, fun _ role => not_makes_of_deleting (h.gated ht), fun hk cluster hloads => ?_⟩
  cases h with
  | cluster hrun => exact ClusterPass.looks_of_deleting hrun hloads
  | role _ => cases hk
  | config _ => cases hk

/-- The turn joins instances. -/
def Turn.joins (e : Turn Surroundings) : Bool :=
  match e.ask with
  | .admin (.join ..) => true
  | _ => false

/-- The pass over a role of the shop joins an instance, after its pod was counted. -/
theorem storage_counted_before_join :
    ∃ (later earlier : Talk Surroundings) (leader : Pod) (request : JoinRequest) (uris : List String)
      (a : Except AdminError JoinOutcome), Passes ⟨"db", "storage"⟩ .role
        (later ++ ⟨Request.admin (.join leader request uris), a⟩ :: earlier) ∧
      ∃ role cluster, earlier.Loads .role ⟨"db", "storage"⟩ role ∧ earlier.copy = some cluster ∧
        earlier.Counts "db" cluster role := by
  have hpass := Passes.role (goes_hear (Shop.answer (Shop.stateful none) (.ok "") (.ok .joined))
    (Pass.run RolePass.steps (MemberPass.start ⟨"db", "storage"⟩)) [])
  have hobeys := (hpass.admitted (Shop.takesStatus_hear _ _ _ _)).1
  have hjoins : ((Pass.run RolePass.steps (MemberPass.start ⟨"db", "storage"⟩)).hear
      (Shop.answer (Shop.stateful none) (.ok "") (.ok .joined)) []).any Turn.joins = true := by
    decide +kernel
  obtain ⟨⟨q, a⟩, he, hask⟩ := List.any_eq_true.1 hjoins
  obtain ⟨later, earlier, hsplit⟩ := List.append_of_mem he
  rw [hsplit] at hpass hobeys
  rw [Turn.joins] at hask
  split at hask
  next leader request uris hq =>
    cases hq
    exact ⟨later, earlier, leader, request, uris, a, hpass, Talk.obeys_of_append hobeys⟩
  next => cases hask

end ClusterKeeper
