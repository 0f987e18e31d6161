import ClusterKeeper.Proofs.Quiescence.ClusterSteps
import ClusterKeeper.Proofs.Replicaset.DriftReport
import ClusterKeeper.Proofs.Replicaset.Preservation
import ClusterKeeper.Proofs.Simulation.Serving

/-!
The service of a cluster, made or brought in line by one step of a pass. What bringing it in line makes of a
service is told for all of it (`Service.parts_synced`): address, readiness and selector are taken over, ports
only if they differ in what tells ports apart, and the cluster is entered as an owner only if it is missing.
So a service is in line afterwards and has all else from before (`Service.InLine`), and it is another one
exactly if a change was told (`Service.synced_snd_iff`).

Main statement: one step leaves a service in line, replaces it exactly if it was not, and leaves nothing to
a second one (`Simulation.service_converges`).
-/

namespace ClusterKeeper

namespace Service

variable {wanted e : Service} {cluster : Cluster}

theorem parts_ports_eq (wanted : ServiceSpec) (e : Service) : ((adjustPorts wanted).made e).parts =
    ({ e.parts.1 with ports := if portKeys e.parts.1 = portKeys wanted then e.parts.1.ports else wanted.ports },
      e.parts.2) := by
  rw [Adjustment.made, adjustPorts]
  split
  next h => rw [if_neg (show ¬portKeys e.parts.1 = portKeys wanted from h)]; rfl
  next h => rw [if_pos (show portKeys e.parts.1 = portKeys wanted from not_not.1 h)]; rfl

/-- What bringing a service in line makes of all of it that is compared. -/
theorem parts_synced (wanted e : Service) : (synced wanted e).1.parts =
    ({ e.currentSpec with
        clusterIP := wanted.currentSpec.clusterIP
        publishNotReadyAddresses := wanted.currentSpec.publishNotReadyAddresses
        selector := wanted.currentSpec.selector
        ports := if portKeys e.currentSpec = portKeys wanted.currentSpec then e.currentSpec.ports
          else wanted.currentSpec.ports },
      (e.metadata.withOwner? wanted.metadata.owners.head?).getD e.metadata) := by
  rw [synced, adjusted_fst]
  simp only [adjustments, List.foldl_cons, List.foldl_nil]
  rw [parts_owner, parts_ports_eq, parts_selector, parts_readiness, parts_address]
  rfl

/-- A change is told exactly if there is one. -/
theorem synced_snd_iff : (synced wanted e).2 = true ↔ (synced wanted e).1 ≠ e := by
  constructor
  · intro htold hsame
    have hfits : Fits wanted e := hsame ▸ fits_synced wanted e
    rw [hfits.synced] at htold
    cases htold
  · intro hchanged
    by_contra htold
    exact hchanged (adjusted_fst_of_snd (Bool.eq_false_iff.2 htold))

/-- Two ports have the same name, number and protocol. -/
structure SamePort (p p' : ServicePort) : Prop where
  name : p.name = p'.name
  number : p.port = p'.port
  protocol : p.protocol = p'.protocol

/-- Two specifications have ports of the same names, numbers and protocols, in the same order. -/
def SamePorts (s s' : ServiceSpec) : Prop := List.Forall₂ SamePort (s.ports.getD []) (s'.ports.getD [])

theorem samePort_iff {p p' : ServicePort} : SamePort p p' ↔ p.key = p'.key := by
  constructor
  · rintro ⟨hname, hnumber, hprotocol⟩
    simp [ServicePort.key, hname, hnumber, hprotocol]
  · intro h
    obtain ⟨hname, hnumber, hprotocol⟩ : p.name = p'.name ∧ p.port = p'.port ∧ p.protocol = p'.protocol := by
      simpa [ServicePort.key] using h
    exact ⟨hname, hnumber, hprotocol⟩

theorem samePorts_iff {s s' : ServiceSpec} : SamePorts s s' ↔ portKeys s = portKeys s' := by
  rw [portKeys, portKeys, ← List.forall₂_eq_eq_eq, List.forall₂_map_left_iff, List.forall₂_map_right_iff]
  exact ⟨fun h => h.imp fun _ _ => samePort_iff.1, fun h => h.imp fun _ _ => samePort_iff.2⟩

/-- A service that is in line with that of a cluster and has all else from another service. -/
structure InLine (cluster : Cluster) (e e' : Service) : Prop where
  address : e'.currentSpec.clusterIP = cluster.service.currentSpec.clusterIP
  readiness : e'.currentSpec.publishNotReadyAddresses = cluster.service.currentSpec.publishNotReadyAddresses
  selector : e'.currentSpec.selector = cluster.service.currentSpec.selector
  ports : SamePorts e'.currentSpec cluster.service.currentSpec
  portsKept : SamePorts e.currentSpec cluster.service.currentSpec →
    e'.currentSpec.ports = e.currentSpec.ports
  /-- The cluster goes by its name, which an owner must have. -/
  owned : ∀ name uid, cluster.metadata.name = some name → cluster.metadata.uid = some uid →
    ∃ owner ∈ e'.metadata.owners, owner.uid = uid
  owners : e.metadata.owners <+: e'.metadata.owners
  spec : e'.spec = some { e.currentSpec with
    clusterIP := e'.currentSpec.clusterIP
    publishNotReadyAddresses := e'.currentSpec.publishNotReadyAddresses
    selector := e'.currentSpec.selector
    ports := e'.currentSpec.ports }
  metadata : e'.metadata = { e.metadata with ownerReferences := e'.metadata.ownerReferences }

/-- A service that is in line with that of a cluster has a specification. -/
theorem Fits.spec_eq (h : Fits cluster.service e) : e.spec = some e.currentSpec := by
  cases hspec : e.spec with
  | none =>
    have haddress := h.address
    simp [currentSpec, hspec, ServiceSpec.blank, Cluster.service] at haddress
  | some spec => rw [currentSpec, hspec, Option.getD_some]

/-- The first owner of the service of a cluster is the cluster, if it can be one. -/
theorem head?_owners_service (cluster : Cluster) :
    cluster.service.metadata.owners.head? = KubeObject.controllerReference cluster := by
  show (((KubeObject.controllerReference cluster).map fun owner => [owner]).getD []).head? = _
  cases KubeObject.controllerReference cluster <;> rfl

/-- The cluster is an owner of a service that is in line with its own. -/
theorem Fits.owned (h : Fits cluster.service e) {name uid : String} (hname : cluster.metadata.name = some name)
    (huid : cluster.metadata.uid = some uid) : ∃ owner ∈ e.metadata.owners, owner.uid = uid := by
  obtain ⟨owner, howner, rfl⟩ :
      ∃ owner, KubeObject.controllerReference cluster = some owner ∧ owner.uid = uid := by
    have hnamed : (KubeObject.metadata cluster).name = some name := hname
    have hidentified : (KubeObject.metadata cluster).uid = some uid := huid
    rw [KubeObject.controllerReference]
    simp only [hnamed, hidentified]
    exact ⟨_, rfl, rfl⟩
  have howned := ObjectMeta.withOwner?_eq_none_iff.1 h.owner owner ((head?_owners_service cluster).trans howner)
  simpa [ObjectMeta.isOwnedBy] using howned

/-- What a service becomes is in line, and all else is from before. -/
theorem inLine_synced (cluster : Cluster) (e : Service) : InLine cluster e (synced cluster.service e).1 := by
  have hparts := parts_synced cluster.service e
  have hfits := fits_synced cluster.service e
  generalize (synced cluster.service e).1 = e' at hparts hfits ⊢
  obtain ⟨hspec, hmeta⟩ := Prod.mk.inj hparts
  obtain ⟨ownerReferences, howner⟩ :=
    ObjectMeta.withOwner?_getD_eq cluster.service.metadata.owners.head? e.metadata
  exact {
    address := hfits.address
    readiness := hfits.readiness
    selector := hfits.selector
    ports := samePorts_iff.2 hfits.ports
    portsKept := fun hports => by rw [hspec, if_pos (samePorts_iff.1 hports)]
    owned := fun _ _ => hfits.owned
    owners := by
      rw [hmeta]
      rcases StatefulSet.owners_withOwner? cluster.service.metadata.owners.head? e.metadata with
        hsame | ⟨owner, _, _, hmore⟩
      · exact hsame ▸ List.prefix_rfl
      · exact hmore ▸ List.prefix_append _ _
    spec := by rw [hfits.spec_eq, hspec]
    metadata := by rw [hmeta, howner] }

end Service

namespace Simulation

open Program ClusterPass

variable {τ : Type} {answer : Answering τ} {s : Stage τ} {c : ClusterPass} {cluster : Cluster} {e : Service}

/-! ### Steps on a stage -/

theorem play_reading {C : Type} {c : C} {name : String} {f : C → Attempt Outcome} {t t' : Talk Surroundings}
    {s' : Stage τ} {outcome : Outcome}
    (h : (f c).run.play (Stage.respond answer) t s = ⟨.ok outcome, t', s'⟩) :
    ((Step.reading name f).run c).play (Stage.respond answer) t s = ⟨(outcome, c), t', s'⟩ := by
  rw [Step.reading, Step.ofAttempt]
  dsimp only
  rw [play_bind, ExceptT.run_bind, play_bind, h]
  rfl

theorem play_store_bind {α : Type} {q : StoreRequest} {f : q.Result → Attempt α} {r : q.Result}
    {t : Talk Surroundings} (h : (s.objects.answer q).1 = .ok r) :
    (Attempt.store q >>= f).run.play (Stage.respond answer) t s =
      (f r).run.play (Stage.respond answer) (⟨.store q, Except.ok r⟩ :: t) (s.respond answer (.store q)).2 := by
  have hplay : (Attempt.store q).run.play (Stage.respond answer) t s =
      ⟨.ok r, ⟨.store q, Except.ok r⟩ :: t, (s.respond answer (.store q)).2⟩ := by
    show (⟨(s.objects.answer q).1, ⟨.store q, (s.objects.answer q).1⟩ :: t, _⟩ :
      Played Surroundings _ (Except OperatorError q.Result)) = _
    rw [h]
  rw [ExceptT.run_bind, play_bind, hplay]

/-- The requests of a talk that create or replace an object, the latest first. -/
def writes (t : Talk Surroundings) : List Request := (t.map Turn.ask).filter Request.isWrite

/-- The step over the service of a cluster, on a stage. -/
def syncing (answer : Answering τ) (c : ClusterPass) (s : Stage τ) :
    Played Surroundings (Stage τ) (Outcome × ClusterPass) :=
  (syncClusterWideService.run c).play (Stage.respond answer) [] s

/-- What the step does about the service that it found, or did not. -/
def treat (wanted : Service) (found : Option Service) : Attempt Outcome :=
  match found with
  | none => do
    Attempt.log .info "Creating cluster-wide Service"
    let _ ← Attempt.create .service wanted
    return .next
  | some existing =>
    match Service.synced wanted existing with
    | (_, false) => return .next
    | (synced, true) => do
      Attempt.log .info "Updating cluster-wide Service"
      let _ ← Attempt.replace .service synced
      return .next

theorem syncing_eq (hcluster : c.cluster = some cluster) : syncing answer c s =
    ((Step.reading "SyncClusterWideService" fun _ =>
        treat cluster.service (s.objects.find? .service c.key.ns cluster.name)).run c).play (Stage.respond answer)
      [⟨.store (.get .service c.key.ns cluster.name),
        Except.ok (s.objects.find? .service c.key.ns cluster.name)⟩] s := by
  obtain ⟨key, found, leader⟩ := c
  subst hcluster
  unfold treat
  rfl

/-- A service that needs no change is left as it is. -/
theorem syncing_of_serviced (answer : Answering τ) (hcluster : c.cluster = some cluster)
    (hserviced : Serviced s.objects c.key.ns cluster) :
    (syncing answer c s).result = (.next, c) ∧ writes (syncing answer c s).talk = [] ∧
      (syncing answer c s).state = s := by
  obtain ⟨e, hfound, htold⟩ := hserviced
  have hpair : Service.synced cluster.service e = ((Service.synced cluster.service e).1, false) :=
    Prod.ext rfl htold
  have hplay : syncing answer c s =
      ⟨(.next, c), [⟨.store (.get .service c.key.ns cluster.name), Except.ok (some e)⟩], s⟩ := by
    rw [syncing_eq hcluster, hfound]
    refine play_reading ?_
    rw [treat]
    rw [hpair]
    rfl
  rw [hplay]
  exact ⟨rfl, rfl, rfl⟩

/-- A service that needs a change is replaced, in the version in which it was found. -/
theorem syncing_replaces (answer : Answering τ) (hcluster : c.cluster = some cluster)
    (hfound : s.objects.find? .service c.key.ns cluster.name = some e)
    (htold : (Service.synced cluster.service e).2 = true) :
    (syncing answer c s).result = (.next, c) ∧
      writes (syncing answer c s).talk = [.store (.replace .service (Service.synced cluster.service e).1)] ∧
      ∃ stored, Stored s (syncing answer c s).state (k := .service) (Service.synced cluster.service e).1 stored := by
  have hpair : Service.synced cluster.service e = ((Service.synced cluster.service e).1, true) :=
    Prod.ext rfl htold
  have hmeta := (Service.inLine_synced cluster e).metadata
  generalize (Service.synced cluster.service e).1 = e' at hpair hmeta ⊢
  have hthere : s.objects.find? .service e'.metadata.nsText e'.metadata.nameText = some e := by
    rw [hmeta]
    exact s.kept.found (k := .service) hfound
  have hanswer : s.objects.answer (.replace .service e') =
      (.ok (s.objects.put .service e').1, (s.objects.put .service e').2) :=
    Objects.update_of_version hthere (show e'.metadata.resourceVersion = e.metadata.resourceVersion by rw [hmeta])
  have hplay : syncing answer c s = ⟨(.next, c),
      [⟨.store (.replace .service e'), Except.ok (s.objects.put .service e').1⟩,
        ⟨.log .info "Updating cluster-wide Service", ()⟩,
        ⟨.store (.get .service c.key.ns cluster.name), Except.ok (some e)⟩],
      (s.respond answer (.store (.replace .service e'))).2⟩ := by
    rw [syncing_eq hcluster, hfound]
    refine play_reading ?_
    rw [treat]
    rw [hpair]
    exact play_store_bind (congrArg Prod.fst hanswer)
  rw [hplay]
  exact ⟨rfl, rfl, _, stored_of_put (congrArg Prod.snd hanswer) rfl⟩

/-- A service that is missing is created. -/
theorem syncing_creates (answer : Answering τ) (hcluster : c.cluster = some cluster) (hns : cluster.nsOf = c.key.ns)
    (hmissing : s.objects.find? .service c.key.ns cluster.name = none) :
    (syncing answer c s).result = (.next, c) ∧
      writes (syncing answer c s).talk = [.store (.create .service cluster.service)] ∧
      Serviced (syncing answer c s).state.objects c.key.ns cluster := by
  have hfree : s.objects.find? .service cluster.service.metadata.nsText cluster.service.metadata.nameText = none := by
    rw [← hmissing, ← hns]
    rfl
  have hanswer : s.objects.answer (.create .service cluster.service) =
      (.ok (s.objects.put .service cluster.service).1, (s.objects.put .service cluster.service).2) :=
    Objects.create_of_free hfree
  have hplay : syncing answer c s = ⟨(.next, c),
      [⟨.store (.create .service cluster.service), Except.ok (s.objects.put .service cluster.service).1⟩,
        ⟨.log .info "Creating cluster-wide Service", ()⟩,
        ⟨.store (.get .service c.key.ns cluster.name), Except.ok none⟩],
      (s.respond answer (.store (.create .service cluster.service))).2⟩ := by
    rw [syncing_eq hcluster, hmissing]
    refine play_reading ?_
    rw [treat]
    exact play_store_bind (congrArg Prod.fst hanswer)
  rw [hplay]
  have hns : cluster.service.metadata.nsText = c.key.ns := hns
  exact ⟨rfl, rfl,
    serviced_of_stored hns rfl (Service.fits_self _) (stored_of_put (congrArg Prod.snd hanswer) rfl)⟩

/-- A service that had an identifier is stored but for its version. -/
theorem core_of_stored {s' : Stage τ} {given stored : Service} (huid : given.metadata.uid.isSome = true)
    (h : Stored s s' (k := .service) given stored) :
    Kind.core (k := .service) stored = Kind.core (k := .service) given := by
  obtain ⟨version, rfl⟩ := h.stamped
  obtain ⟨uid, huid⟩ := Option.isSome_iff_exists.1 huid
  show ({ given with metadata := (Objects.stamped version given.metadata).unversioned } : Service) =
    { given with metadata := given.metadata.unversioned }
  simp [Objects.stamped, ObjectMeta.unversioned, huid]

/-- A service that is there is left in line, and was replaced if that made it another one. -/
theorem syncing_aligns (answer : Answering τ) (hcluster : c.cluster = some cluster)
    (hfound : s.objects.find? .service c.key.ns cluster.name = some e) :
    (syncing answer c s).result = (.next, c) ∧ Serviced (syncing answer c s).state.objects c.key.ns cluster ∧
      ∃ e' stored, Service.InLine cluster e e' ∧
        (syncing answer c s).state.objects.find? .service c.key.ns cluster.name = some stored ∧
        Kind.core (k := .service) stored = Kind.core (k := .service) e' ∧
        writes (syncing answer c s).talk = if e' = e then [] else [.store (.replace .service e')] := by
  have hinline := Service.inLine_synced cluster e
  cases htold : (Service.synced cluster.service e).2 with
  | false =>
    have hserviced : Serviced s.objects c.key.ns cluster := ⟨e, hfound, htold⟩
    obtain ⟨hnext, hwrites, hstate⟩ := syncing_of_serviced answer hcluster hserviced
    have hsame : (Service.synced cluster.service e).1 = e := adjusted_fst_of_snd htold
    rw [hsame] at hinline
    rw [hnext, hwrites, hstate]
    exact ⟨rfl, hserviced, e, e, hinline, hfound, rfl, (if_pos rfl).symm⟩
  | true =>
    obtain ⟨hnext, hwrites, stored, hstored⟩ := syncing_replaces answer hcluster hfound htold
    have hchanged := Service.synced_snd_iff.1 htold
    have hfits := Service.fits_synced cluster.service e
    generalize (Service.synced cluster.service e).1 = e' at hinline hwrites hstored hchanged hfits
    have hns : e'.metadata.nsText = c.key.ns := by
      rw [hinline.metadata]
      exact s.kept.ns (k := .service) hfound
    have hname : e'.metadata.nameText = cluster.name := by
      rw [hinline.metadata]
      exact s.kept.name (k := .service) hfound
    have huid : e'.metadata.uid.isSome = true := by
      rw [hinline.metadata]
      exact s.kept.uid (k := .service) hfound
    have hthere := hstored.found
    rw [show (KubeObject.metadata (α := Kind.service.Object) e').nsText = _ from hns,
      show (KubeObject.metadata (α := Kind.service.Object) e').nameText = _ from hname] at hthere
    exact ⟨hnext, serviced_of_stored hns hname hfits hstored, e', stored, hinline, hthere,
      core_of_stored huid hstored, hwrites.trans (if_neg hchanged).symm⟩

/-- For whatever cluster and stored objects: one step over the service of the cluster leaves a service that is in
line and has all else from the one that was stored; it is replaced exactly if it is another one then. If
there is none, one is created. A second step writes nothing and leaves everything as it is. -/
theorem service_converges (answer : Answering τ) (s : Stage τ) (c : ClusterPass) (cluster : Cluster)
    (hcluster : c.cluster = some cluster) (hns : cluster.nsOf = c.key.ns) :
    let first := syncing answer c s
    let second := syncing answer c first.state
    (∀ e, s.objects.find? .service cluster.nsOf cluster.name = some e → ∃ e' stored, Service.InLine cluster e e' ∧
      first.state.objects.find? .service cluster.nsOf cluster.name = some stored ∧
      Kind.core (k := .service) stored = Kind.core (k := .service) e' ∧
      writes first.talk = if e' = e then [] else [.store (.replace .service e')]) ∧
    (s.objects.find? .service cluster.nsOf cluster.name = none →
      (first.state.objects.find? .service cluster.nsOf cluster.name).isSome ∧
      writes first.talk = [.store (.create .service cluster.service)]) ∧
    first.result = (.next, c) ∧
    second.result = (.next, c) ∧ writes second.talk = [] ∧ second.state = first.state := by
  intro first second
  have hsecond : Serviced first.state.objects c.key.ns cluster →
      second.result = (.next, c) ∧ writes second.talk = [] ∧ second.state = first.state :=
    syncing_of_serviced answer hcluster
  rw [hns]
  cases hfound : s.objects.find? .service c.key.ns cluster.name with
  | none =>
    obtain ⟨hnext, hwrites, hserviced⟩ := syncing_creates answer hcluster hns hfound
    obtain ⟨service, hthere, _⟩ := id hserviced
    exact ⟨fun e he => absurd he.symm (Option.some_ne_none e),
      fun _ => ⟨Option.isSome_of_eq_some hthere, hwrites⟩, hnext, hsecond hserviced⟩
  | some e =>
    obtain ⟨hnext, hserviced, hinline⟩ := syncing_aligns answer hcluster hfound
    refine ⟨fun e' he => ?_, fun he => absurd he (Option.some_ne_none e), hnext, hsecond hserviced⟩
    obtain rfl := Option.some.inj he
    exact hinline

/-! ### An example: a service that was edited by hand -/

/-- A cluster. -/
def resolved : Cluster where
  metadata := { ObjectMeta.blank with name := some "shop", ns := some "db", uid := some "42" }
  spec := .default
  status := none

/-- A service of its name that has an address, belongs to somebody else and exposes the wanted ports on nodes. -/
def exposed : Service where
  metadata := { ObjectMeta.blank with
    name := some "shop"
    ns := some "db"
    ownerReferences := some [⟨"v1", "ConfigMap", "legacy", "40", none⟩] }
  spec := some { ServiceSpec.blank with
    clusterIP := some "10.0.0.7"
    sessionAffinity := some "ClientIP"
    ports := some [⟨some "app", resolved.spec.listenPort, some "TCP", none, some 30301⟩,
      ⟨some "app-udp", resolved.spec.listenPort, some "UDP", none, some 30301⟩] }

/-- A store that holds it. -/
def exposedStage : Stage Unit where
  objects := (Objects.blank.put .service exposed).2
  kept := Objects.kept_blank.put .service exposed
  topology := ()

/-- The service is replaced once; it keeps its ports, its affinity and its owner, and the cluster is one too. -/
theorem exposed_replaced_once :
    let pass : ClusterPass := ⟨⟨"db", "shop"⟩, some resolved, none⟩
    let unasked : Answering Unit := fun t _ => (.error .decode, t)
    let first := syncing unasked pass exposedStage
    ∃ e' : Service, writes first.talk = [.store (.replace .service e')] ∧
      e'.currentSpec.clusterIP = some "None" ∧ e'.currentSpec.ports = exposed.currentSpec.ports ∧
      e'.currentSpec.sessionAffinity = some "ClientIP" ∧
      ⟨"v1", "ConfigMap", "legacy", "40", none⟩ ∈ e'.metadata.owners ∧
      (∃ owner ∈ e'.metadata.owners, owner.uid = "42") ∧
      writes (syncing unasked pass first.state).talk = [] := by
  intro pass unasked first
  have hfound : exposedStage.objects.find? .service "db" "shop" = some (Objects.blank.put .service exposed).1 := by
    rw [exposedStage, Objects.find?_put]
    exact if_pos ⟨rfl, rfl⟩
  obtain ⟨hthere, _, _, _, hquiet, _⟩ := service_converges unasked exposedStage pass resolved rfl rfl
  obtain ⟨e', stored, hinline, _, _, hwrites⟩ := hthere _ hfound
  have hchanged : e' ≠ (Objects.blank.put .service exposed).1 := by
    rintro rfl
    exact absurd hinline.address (by decide)
  rw [if_neg hchanged] at hwrites
  have hports : Service.SamePorts (Objects.blank.put .service exposed).1.currentSpec
      resolved.service.currentSpec := .cons ⟨rfl, rfl, rfl⟩ (.cons ⟨rfl, rfl, rfl⟩ .nil)
  refine ⟨e', hwrites, hinline.address, hinline.portsKept hports, ?_, ?_, hinline.owned _ _ rfl rfl, hquiet⟩
  · rw [Service.currentSpec, hinline.spec]
    rfl
  · exact hinline.owners.subset (List.mem_singleton.2 rfl)

end Simulation

end ClusterKeeper
