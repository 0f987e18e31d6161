import ClusterKeeper.Proofs.Quiescence.ClusterPass
import ClusterKeeper.Proofs.Quiescence.ConfigPass
import ClusterKeeper.Proofs.Quiescence.RolePass
import ClusterKeeper.Proofs.Simulation.Registry

/-!
Passes come to rest. In surroundings that keep what they are told, with nobody else acting, a pass that
follows one that ended in the phase `ready` ends in that phase again and leaves everything as it is
(`passes_quiesce`). Of each pass one half shows what is the case when it has ended so (`*_settles`), the
other that this leaves nothing to do (`*_of_*`).
-/

namespace ClusterKeeper

namespace Simulation

open Program

variable {τ C α : Type} {answer : Answering τ} {s : Stage τ} {key : ObjectKey}

/-- A request that changes nothing: it reads, or it writes a status over an object that is the same with its
status. Weights may be set, since their setting cannot be told. -/
def ChangeFree (os : Objects) : Request → Prop
  | .store (.get ..) | .store (.list ..) | .log .. => True
  | .store (.replaceStatus k given) =>
    os.find? k (KubeObject.metadata given).nsText (KubeObject.metadata given).nameText = some given
  | .store (.create ..) | .store (.replace ..) | .record .. => False
  | .admin (.setWeight ..) => True
  | .admin q => q.IsQuery

instance (os : Objects) : AdmitsReads (fun (_ : Stage τ) => ChangeFree os) where
  of_reads _ q hq := by
    unfold ChangeFree
    split <;> trivial

/-- If a pass ends in a phase, so does the one that follows it, and that one changes nothing. -/
def Quiesces [PassState C α] [CustomResource α] (answer : Answering τ) (steps : List (Step C)) (c : C)
    (phase : CustomResource.Phase α) (s : Stage τ) : Prop :=
  let first := (Pass.run steps c).play (Stage.respond answer) [] s
  let second := (Pass.run steps c).play (Stage.respond answer) [] first.state
  EndsIn phase first.result →
    EndsIn phase second.result ∧ ∀ turn ∈ second.talk, ChangeFree first.state.objects turn.ask

/-- A pass quiesces when what is so after it leaves the next one nothing to change. -/
theorem quiesces_of_settles [PassState C α] [CustomResource α] {steps : List (Step C)} {c : C}
    {phase : CustomResource.Phase α} {settled : Stage τ → Prop}
    (hsettles : Plays (Stage.respond answer) Free (Pass.run steps c)
      (fun s r => EndsIn phase r → settled s) s)
    (hchangeFree : ∀ s, settled s → Plays (Stage.respond answer) (fun _ => ChangeFree s.objects) (Pass.run steps c)
      (fun _ r => EndsIn phase r) s) : Quiesces answer steps c phase s := by
  intro hends
  have hsecond := hchangeFree _ (hsettles.play [] hends)
  exact ⟨hsecond.play [], hsecond.talk (List.forall_mem_nil _)⟩

/-- The cluster that the labels of an object name is bootstrapped. -/
def OfBootstrapped (k : Kind) (os : Objects) (key : ObjectKey) : Prop :=
  ∀ (o : k.Object) name cluster, os.find? k key.ns key.name = some o →
    (KubeObject.metadata o).labelSet.get? Labels.clusterName = some name →
    os.find? .cluster key.ns name = some cluster → Cluster.isBootstrapped cluster = true

theorem ofBootstrapped_of_all {k : Kind} {os : Objects}
    (h : ((os.find? k key.ns key.name).all fun o =>
      ((KubeObject.metadata o).labelSet.get? Labels.clusterName).all fun name =>
        (os.find? .cluster key.ns name).all Cluster.isBootstrapped) = true) : OfBootstrapped k os key := by
  intro o name cluster hfound hlabel hcluster
  rw [hfound, Option.all_some, hlabel, Option.all_some, hcluster] at h
  exact h

/-- In surroundings that keep what they are told, the pass over a role, over a clusterwide config or over a
cluster that follows one that ended in the phase `ready` ends in that phase again; it creates and replaces
nothing, records no event, elects no leader, asks nothing of the topology but queries and weights, and
writes a status only as it is stored. The cluster has to be bootstrapped before. -/
theorem passes_quiesce (h : Remembers answer) (s : Stage τ) (key : ObjectKey) :
    (OfBootstrapped .role s.objects key →
      Quiesces answer RolePass.steps (MemberPass.start key) RolePhase.ready s) ∧
    (OfBootstrapped .cartridgeConfig s.objects key →
      Quiesces answer ConfigPass.steps (MemberPass.start key) CartridgeConfigPhase.ready s) ∧
    ((∀ cluster, s.objects.find? .cluster key.ns key.name = some cluster →
        Cluster.isBootstrapped cluster = true) →
      Quiesces answer ClusterPass.steps (ClusterPass.start key) ClusterPhase.ready s) := by
  refine ⟨fun hboot => ?_, fun hboot => ?_, fun hboot => ?_⟩
  · refine quiesces_of_settles (rolePass_settles h hboot) fun s' hs' => ?_
    obtain ⟨role, name, cluster, leader, hupheld, hwritten⟩ := hs'
    refine rolePass_of_upheld h hupheld hwritten (fun _ _ _ _ => trivial) fun s'' _ => ?_
    exact s'.kept.found hupheld.found
  · refine quiesces_of_settles (configPass_settles h hboot) fun s' hs' => ?_
    obtain ⟨config, name, cluster, leader, happlied, hwritten⟩ := hs'
    exact configPass_of_applied h happlied hwritten (s'.kept.found happlied.found)
  · refine quiesces_of_settles (clusterPass_settles h hboot) fun s' hs' => ?_
    obtain ⟨cluster, leader, hsustained, hfound, hwritten⟩ := hs'
    exact clusterPass_of_sustained h hsustained hfound hwritten (s'.kept.found hfound)

/-! ### A shop -/

namespace Shop

/-- The metadata of an object in the shop's namespace. -/
def labelled (name : String) (labels : Labels) : ObjectMeta :=
  { ObjectMeta.blank with name := some name, ns := some "db", labels := some labels }

/-- A cluster that is bootstrapped. -/
def cluster : Cluster where
  metadata := labelled "shop" .empty
  spec := .default
  status := some ⟨.pending, true, some "storage-0-0"⟩

/-- A role with two instances. -/
def role : Role where
  metadata := labelled "storage" (Labels.clusterSelector "shop")
  spec := { RoleSpec.default with template := { ReplicasetTemplate.default with replicas := 2 } }
  status := some ⟨.waitingForBootstrap⟩

/-- A clusterwide config. -/
def config : CartridgeConfig where
  metadata := labelled "settings" (Labels.clusterSelector "shop")
  spec := ⟨"currency: EUR"⟩
  status := none

/-- A pod of the role, which is up. -/
def pod (name : String) : Pod where
  metadata := labelled name (Labels.roleSelector "shop" "storage")
  spec := none
  status := some {
    phase := some "Running"
    containerStatuses :=
      some [{ name := "pod", image := "", imageID := "", ready := true, restartCount := 0 }] }

/-- The objects of the shop, without its service and its StatefulSets. -/
def objects : Objects :=
  [(⟨.cluster, cluster⟩ : (k : Kind) × k.Object), ⟨.role, role⟩, ⟨.cartridgeConfig, config⟩,
    ⟨.pod, pod "storage-0-0"⟩, ⟨.pod, pod "storage-0-1"⟩].foldl (fun os o => (os.put o.1 o.2).2) .blank

theorem kept_objects : objects.Kept :=
  .put (.put (.put (.put (.put Objects.kept_blank _ _) _ _) _ _) _ _) _ _

/-- The shop, where one of the two instances is part of the topology. -/
def stage : Stage Registry where
  objects := objects
  kept := kept_objects
  topology := {
    topology := { Topology.blank with configured := SortedMap.empty.insert "storage-0-0" () }
    addresses := [cluster.advertiseUri "storage-0-0"] }

end Shop

/-- The passes over the shop's role, its config and its cluster quiesce: the first ones make a StatefulSet,
join an instance, upload the config, make the service and set the failover parameters. -/
theorem shop_quiesces :
    (EndsIn RolePhase.ready ((Pass.run RolePass.steps (MemberPass.start ⟨"db", "storage"⟩)).play
        (Stage.respond Registry.answer) [] Shop.stage).result ∧
      Quiesces Registry.answer RolePass.steps (MemberPass.start ⟨"db", "storage"⟩) RolePhase.ready Shop.stage) ∧
    (EndsIn CartridgeConfigPhase.ready ((Pass.run ConfigPass.steps (MemberPass.start ⟨"db", "settings"⟩)).play
        (Stage.respond Registry.answer) [] Shop.stage).result ∧
      Quiesces Registry.answer ConfigPass.steps (MemberPass.start ⟨"db", "settings"⟩)
        CartridgeConfigPhase.ready Shop.stage) ∧
    (EndsIn ClusterPhase.ready ((Pass.run ClusterPass.steps (ClusterPass.start ⟨"db", "shop"⟩)).play
        (Stage.respond Registry.answer) [] Shop.stage).result ∧
      Quiesces Registry.answer ClusterPass.steps (ClusterPass.start ⟨"db", "shop"⟩)
        ClusterPhase.ready Shop.stage) := by
  have hquiesce := passes_quiesce Registry.remembers Shop.stage
  refine ⟨⟨by decide +kernel, (hquiesce _).1 ?_⟩, ⟨by decide +kernel, (hquiesce _).2.1 ?_⟩,
    ⟨by decide +kernel, (hquiesce _).2.2 ?_⟩⟩
  · exact ofBootstrapped_of_all (by decide +kernel)
  · exact ofBootstrapped_of_all (by decide +kernel)
  · exact (Option.all_eq_true Cluster.isBootstrapped _).1 (by decide +kernel)

end Simulation

end ClusterKeeper
