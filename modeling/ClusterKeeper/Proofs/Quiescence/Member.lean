import ClusterKeeper.Proofs.Quiescence.Steps

/-!
Objects that belong to a cluster, on a stage: the object, its cluster and the leader are found as they were
(`Belongs`), whatever becomes of the status of the object and of the topology.
-/

namespace ClusterKeeper.Simulation

open Program

variable {τ C : Type} {answer : Answering τ} {s s' : Stage τ} {key : ObjectKey} {k : Kind} {o : k.Object}
  {name : String} {cluster cluster' : Cluster} {leader : Pod}

/-- An object and the cluster that its labels name are stored, and the leader of that cluster, which is
bootstrapped, is found. -/
structure Belongs (answer : Answering τ) (s : Stage τ) (key : ObjectKey) {k : Kind} (o : k.Object)
    (name : String) (cluster : Cluster) (leader : Pod) : Prop where
  found : s.objects.find? k key.ns key.name = some o
  label : (KubeObject.metadata o).labelSet.get? Labels.clusterName = some name
  foundCluster : s.objects.find? .cluster key.ns name = some cluster
  bootstrapped : cluster.isBootstrapped = true
  led : Led answer s cluster leader

theorem Belongs.onward (h : Belongs answer s key o name cluster leader) (hs : Onward answer s s') :
    Belongs answer s' key o name cluster leader :=
  ⟨hs.objects ▸ h.found, h.label, hs.objects ▸ h.foundCluster, h.bootstrapped,
    h.led.later (congrArg (Objects.shelf · .pod) hs.objects) hs.later⟩

/-- What is stored over the object when its status is replaced belongs to the cluster as well. -/
theorem Belongs.restatused {given stored : k.Object} (h : Belongs answer s key o name cluster leader)
    (hcluster : Kind.cluster ≠ k) (hpod : Kind.pod ≠ k)
    (hgiven : KubeObject.metadata given = KubeObject.metadata o) (hstored : Restatused s s' given stored) :
    Kind.core o = Kind.core stored ∧ Belongs answer s' key stored name cluster leader := by
  have hns : (KubeObject.metadata given).nsText = key.ns := hgiven ▸ s.kept.ns h.found
  have hname : (KubeObject.metadata given).nameText = key.name := hgiven ▸ s.kept.name h.found
  have hfound := hstored.found
  rw [hns, hname] at hfound
  have hcore : Kind.core o = Kind.core stored := by
    obtain ⟨old, hold, hcore⟩ := hstored.core
    rw [hns, hname, h.found] at hold
    rw [hcore, Option.some.inj hold]
  refine ⟨hcore, hfound, ?_, ?_, h.bootstrapped, ?_⟩
  · exact (Kind.of_core hcore (fun m => m.labelSet.get? Labels.clusterName) fun _ => rfl).symm.trans h.label
  · exact (hstored.toOnlyIn.find? hcluster _ _).trans h.foundCluster
  · exact h.led.later (hstored.shelf .pod hpod) (hstored.topology ▸ .rfl)

/-- When a leader is found, the object belongs to its cluster. -/
theorem getLeader_belongs [PassState C k.Object] {c : C} {on : Stage τ → C → Prop}
    {ends : Stage τ → Outcome → C → Prop} (h : Remembers answer) (hk : k ≠ .cluster)
    (hc : PassState.cluster c = some cluster) (hfound : s.objects.find? k key.ns key.name = some o)
    (hlabel : (KubeObject.metadata o).labelSet.get? Labels.clusterName = some name)
    (hcluster : s.objects.find? .cluster key.ns name = some cluster)
    (hboot : cluster.isBootstrapped = true)
    (hends : ∀ s outcome, outcome.Retries → ends s outcome c)
    (hon : ∀ s' leader cluster', OnlyIn .cluster s s' →
      Kind.core (k := .cluster) cluster' = Kind.core (k := .cluster) cluster →
      Belongs answer s' key o name cluster' leader →
      on s' (PassState.withLeader leader (PassState.withCluster cluster' c))) :
    Goes answer Free (Pass.getLeader (C := C)) on ends s c := by
  have hplace : s.objects.find? .cluster cluster.nsOf cluster.name = some cluster := s.kept.found hcluster
  refine getLeader_settles hc hboot h (fun old hold => ?_) hends fun s' leader cluster' helected => ?_
  · rw [Option.some.inj (hold.symm.trans hplace)]
  refine hon s' leader cluster' helected.toOnlyIn helected.core
    ⟨(helected.toOnlyIn.find? hk _ _).trans hfound, hlabel, ?_, helected.bootstrapped, helected.led⟩
  rcases helected.stored with ⟨rfl, rfl⟩ | hstored
  · exact hcluster
  · have hns : cluster.nsOf = key.ns := s.kept.ns hcluster
    have hname : cluster.name = name := s.kept.name hcluster
    rw [hns, hname] at hstored
    exact hstored

end ClusterKeeper.Simulation
