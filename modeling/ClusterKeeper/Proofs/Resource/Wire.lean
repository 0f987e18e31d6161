import ClusterKeeper.Proofs.Cartridge.FailoverUpdate
import ClusterKeeper.Proofs.Http.StatusReplacement
import ClusterKeeper.Proofs.Json.MemberRules
import ClusterKeeper.Proofs.Kubernetes.Wire

/-!
Custom resources on the wire. Each of their records leaves some members out when it is written and has defaults for
some when it is read. That these agree is told record by record: what is written is read as what it was
(`LawfulWire`), and which members may be left out is listed (`RecordWire`).

Main statement: custom resources survive the wire, whatever was left out when they were read, and the body that
replaces a status holds the version and the specification that were read (`Kind.custom_survives`).
-/

namespace ClusterKeeper

open Members Member

/-! ### Clusters -/

instance : LawfulWire SecretReference :=
  .of_present (fun _ => rfl) (fun _ => by simp [always, ifSome]) fun r found hget => by
    simp only [Wire.read, Json.record?, Option.bind_eq_bind, Option.bind_some]
    rw [required_write (hget "name"), optional_ifSome (hget "namespace"), optional_ifSome (hget "key")]
    rfl

instance : RecordWire SecretReference where
  rules := [.required String "name", .optional String "namespace", .optional String "key"]
  reads_iff ms := by simp [Json.Reads, Wire.read, Json.record?, RecordWire.isSome_bind_iff]

instance : LawfulWire Etcd2Spec :=
  .of_present (fun _ => rfl) (fun _ => by simp [always, ifSome]) fun s found hget => by
    simp only [Wire.read, Json.record?, Option.bind_eq_bind, Option.bind_some]
    rw [defaulted_write [] (hget "endpoints"), defaulted_write "" (hget "username"),
      optional_ifSome (hget "password"), defaulted_write Etcd2Spec.defaultLockDelay (hget "lockDelay"),
      defaulted_write "" (hget "prefix")]
    rfl

instance : RecordWire Etcd2Spec where
  rules := [
    .defaulted (List String) "endpoints",
    .defaulted String "username",
    .optional SecretReference "password",
    .defaulted Int32 "lockDelay",
    .defaulted String "prefix"]
  reads_iff ms := by simp [Json.Reads, Wire.read, Json.record?, RecordWire.isSome_bind_iff]

instance : LawfulWire StateboardSpec :=
  .of_present (fun _ => rfl) (fun _ => by simp [always, ifSome]) fun s found hget => by
    simp only [Wire.read, Json.record?, Option.bind_eq_bind, Option.bind_some]
    rw [required_write (hget "uri"), optional_ifSome (hget "password")]
    rfl

instance : RecordWire StateboardSpec where
  rules := [.required String "uri", .optional SecretReference "password"]
  reads_iff ms := by simp [Json.Reads, Wire.read, Json.record?, RecordWire.isSome_bind_iff]

instance : LawfulWire FailoverSpec :=
  .of_present (fun _ => rfl) (fun _ => by simp [always, ifSome]) fun s found hget => by
    simp only [Wire.read, Json.record?, Option.bind_eq_bind, Option.bind_some]
    rw [defaulted_write FailoverSpec.default.mode (hget "mode"),
      defaulted_write FailoverSpec.default.timeout (hget "timeout"), optional_ifSome (hget "stateProvider"),
      defaulted_write FailoverSpec.default.fencing (hget "fencing"),
      defaulted_write FailoverSpec.default.fencingTimeout (hget "fencingTimeout"),
      defaulted_write FailoverSpec.default.fencingPause (hget "fencingPause"), optional_ifSome (hget "etcd2"),
      optional_ifSome (hget "stateboard")]
    rfl

instance : RecordWire FailoverSpec where
  rules := [
    .defaulted FailoverMode "mode",
    .defaulted Int32 "timeout",
    .optional StateProvider "stateProvider",
    .defaulted Bool "fencing",
    .defaulted Int32 "fencingTimeout",
    .defaulted Int32 "fencingPause",
    .optional Etcd2Spec "etcd2",
    .optional StateboardSpec "stateboard"]
  reads_iff ms := by simp [Json.Reads, Wire.read, Json.record?, RecordWire.isSome_bind_iff]

instance : LawfulWire ClusterSpec :=
  .of_present (fun _ => rfl) (fun _ => by simp [always, ifSome]) fun s found hget => by
    simp only [Wire.read, Json.record?, Option.bind_eq_bind, Option.bind_some]
    rw [defaulted_write ClusterSpec.default.domain (hget "domain"),
      defaulted_write ClusterSpec.default.listenPort (hget "listenPort"),
      defaulted_write FailoverSpec.default (hget "failover"), optional_ifSome (hget "foreignLeader")]
    rfl

instance : RecordWire ClusterSpec where
  rules := [
    .defaulted String "domain",
    .defaulted Int32 "listenPort",
    .defaulted FailoverSpec "failover",
    .optional String "foreignLeader"]
  reads_iff ms := by simp [Json.Reads, Wire.read, Json.record?, RecordWire.isSome_bind_iff]

instance : LawfulWire ClusterPhase := ⟨fun p => by cases p <;> rfl, nofun⟩

instance : LawfulWire ClusterStatus :=
  .of_present (fun _ => rfl) (fun _ => by simp [always, ifSome]) fun s found hget => by
    simp only [Wire.read, Json.record?, Option.bind_eq_bind, Option.bind_some]
    rw [defaulted_write .pending (hget "phase"), defaulted_write false (hget "bootstrapped"),
      optional_ifSome (hget "leader")]
    rfl

instance : RecordWire ClusterStatus where
  rules := [.defaulted ClusterPhase "phase", .defaulted Bool "bootstrapped", .optional String "leader"]
  reads_iff ms := by simp [Json.Reads, Wire.read, Json.record?, RecordWire.isSome_bind_iff]

instance : LawfulWire Cluster :=
  .of_present (fun _ => rfl) (fun _ => by simp [always, ifSome]) fun c found hget => by
    simp only [Wire.read, Json.resource?, Json.members?, Option.bind_eq_bind, Option.bind_some]
    rw [required_write (hget "metadata"), required_write (hget "spec"), optional_ifSome (hget "status")]
    rfl

instance : RecordWire Cluster where
  rules := [.required ObjectMeta "metadata", .required ClusterSpec "spec", .optional ClusterStatus "status"]
  reads_iff ms := by simp [Json.Reads, Wire.read, Json.resource?, Json.members?, RecordWire.isSome_bind_iff]

/-! ### Roles -/

instance : LawfulWire ReplicasetTemplate :=
  .of_present (fun _ => rfl) (fun _ => by simp [always, ifSome, unlessDefault]) fun t found hget => by
    simp only [Wire.read, Json.record?, Option.bind_eq_bind, Option.bind_some]
    rw [defaulted_write ReplicasetTemplate.default.replicas (hget "replicas"),
      defaulted_write PodTemplate.blank (hget "podTemplate"),
      defaulted_unlessDefault (hget "volumeClaimTemplates"), optional_ifSome (hget "minReadySeconds"),
      optional_ifSome (hget "updateStrategy")]
    rfl

instance : RecordWire ReplicasetTemplate where
  rules := [
    .defaulted Int32 "replicas",
    .defaulted PodTemplate "podTemplate",
    .defaulted (List VolumeClaim) "volumeClaimTemplates",
    .optional Int32 "minReadySeconds",
    .optional UpdateStrategy "updateStrategy"]
  reads_iff ms := by simp [Json.Reads, Wire.read, Json.record?, RecordWire.isSome_bind_iff]

instance : LawfulWire VshardSpec :=
  .of_present (fun _ => rfl) (fun _ => by simp [always]) fun s found hget => by
    simp only [Wire.read, Json.record?, Option.bind_eq_bind, Option.bind_some]
    rw [defaulted_write VshardSpec.default.groupName (hget "vshardGroupName"),
      defaulted_write [] (hget "clusterRoles"), defaulted_write VshardSpec.default.weight (hget "weight")]
    rfl

instance : RecordWire VshardSpec where
  rules := [
    .defaulted String "vshardGroupName",
    .defaulted (List String) "clusterRoles",
    .defaulted Int32 "weight"]
  reads_iff ms := by simp [Json.Reads, Wire.read, Json.record?, RecordWire.isSome_bind_iff]

instance : LawfulWire RoleSpec :=
  .of_present (fun _ => rfl) (fun _ => by simp [always]) fun s found hget => by
    simp only [Wire.read, Json.record?, Option.bind_eq_bind, Option.bind_some]
    rw [defaulted_write RoleSpec.default.replicasets (hget "replicasets"),
      defaulted_write ReplicasetTemplate.default (hget "replicasetTemplate"), defaulted_write false (hget "allRw"),
      defaulted_write VshardSpec.default (hget "vshard")]
    rfl

instance : RecordWire RoleSpec where
  rules := [
    .defaulted Int32 "replicasets",
    .defaulted ReplicasetTemplate "replicasetTemplate",
    .defaulted Bool "allRw",
    .defaulted VshardSpec "vshard"]
  reads_iff ms := by simp [Json.Reads, Wire.read, Json.record?, RecordWire.isSome_bind_iff]

instance : LawfulWire RolePhase := ⟨fun p => by cases p <;> rfl, nofun⟩

instance : LawfulWire RoleStatus :=
  .of_present (fun _ => rfl) (fun _ => by simp) fun s found hget => by
    simp only [Wire.read, Json.record?, Option.bind_eq_bind, Option.bind_some]
    rw [defaulted_write .pending (hget "phase")]
    rfl

instance : RecordWire RoleStatus where
  rules := [.defaulted RolePhase "phase"]
  reads_iff ms := by simp [Json.Reads, Wire.read, Json.record?, RecordWire.isSome_bind_iff]

instance : LawfulWire Role :=
  .of_present (fun _ => rfl) (fun _ => by simp [always, ifSome]) fun r found hget => by
    simp only [Wire.read, Json.resource?, Json.members?, Option.bind_eq_bind, Option.bind_some]
    rw [required_write (hget "metadata"), required_write (hget "spec"), optional_ifSome (hget "status")]
    rfl

instance : RecordWire Role where
  rules := [.required ObjectMeta "metadata", .required RoleSpec "spec", .optional RoleStatus "status"]
  reads_iff ms := by simp [Json.Reads, Wire.read, Json.resource?, Json.members?, RecordWire.isSome_bind_iff]

/-! ### Clusterwide configs -/

instance : LawfulWire CartridgeConfigSpec :=
  .of_present (fun _ => rfl) (fun _ => by simp) fun s found hget => by
    simp only [Wire.read, Json.record?, Option.bind_eq_bind, Option.bind_some]
    rw [defaulted_write "" (hget "data")]
    rfl

instance : RecordWire CartridgeConfigSpec where
  rules := [.defaulted String "data"]
  reads_iff ms := by simp [Json.Reads, Wire.read, Json.record?, RecordWire.isSome_bind_iff]

instance : LawfulWire CartridgeConfigPhase := ⟨fun p => by cases p <;> rfl, nofun⟩

instance : LawfulWire CartridgeConfigStatus :=
  .of_present (fun _ => rfl) (fun _ => by simp) fun s found hget => by
    simp only [Wire.read, Json.record?, Option.bind_eq_bind, Option.bind_some]
    rw [defaulted_write .waitingForCluster (hget "phase")]
    rfl

instance : RecordWire CartridgeConfigStatus where
  rules := [.defaulted CartridgeConfigPhase "phase"]
  reads_iff ms := by simp [Json.Reads, Wire.read, Json.record?, RecordWire.isSome_bind_iff]

instance : LawfulWire CartridgeConfig :=
  .of_present (fun _ => rfl) (fun _ => by simp [always, ifSome]) fun c found hget => by
    simp only [Wire.read, Json.resource?, Json.members?, Option.bind_eq_bind, Option.bind_some]
    rw [required_write (hget "metadata"), required_write (hget "spec"), optional_ifSome (hget "status")]
    rfl

instance : RecordWire CartridgeConfig where
  rules := [
    .required ObjectMeta "metadata",
    .required CartridgeConfigSpec "spec",
    .optional CartridgeConfigStatus "status"]
  reads_iff ms := by simp [Json.Reads, Wire.read, Json.resource?, Json.members?, RecordWire.isSome_bind_iff]

/-! ### Kinds of resources -/

namespace Kind

variable {σ : Type}

/-- Objects of a kind survive the wire. They are read as they were written. Where an object can be read, it still can
without members that may be left out and with members that are not known, and what is read then survives too. And
the status of an object is replaced by one message, which is read as the object with its new status. -/
structure SurvivesWire (k : Kind) (rules : List MemberRule) (withStatus : Option σ → k.Object → k.Object) : Prop where
  read_write : ∀ o : k.Object, Wire.read (Wire.write o) = some o
  reread : ∀ (ms ms' : Members) (o : k.Object), Wire.read (.obj ms) = some o → ms.Edited rules ms' →
    ∃ o' : k.Object, Wire.read (.obj ms') = some o' ∧ Wire.read (Wire.write o') = some o'
  status : ∀ (o : k.Object) (s : Option σ), ∃ body, Wire.read body = some (withStatus s o) ∧
    ∀ w r, (StoreRequest.replaceStatus k (withStatus s o)).perform.Goes [] w r →
      Http.asked w = (StoreRequest.statusTarget? k (withStatus s o)).toList.map fun target =>
        ⟨.put, target, some body⟩

theorem survivesWire_of_lawful (k : Kind) [LawfulWire k.Object] [RecordWire k.Object]
    (withStatus : Option σ → k.Object → k.Object) :
    k.SurvivesWire (RecordWire.rules k.Object) withStatus where
  read_write := LawfulWire.read_write
  reread ms ms' o hread hedited := by
    have hreads : (Json.obj ms').Reads k.Object :=
      RecordWire.reads_of_edited hedited (Option.isSome_iff_exists.2 ⟨o, hread⟩)
    obtain ⟨o', ho'⟩ := Option.isSome_iff_exists.1 hreads
    exact ⟨o', ho', LawfulWire.read_write o'⟩
  status o s := ⟨Wire.write (withStatus s o), LawfulWire.read_write _, fun _ _ => StoreRequest.asked_replaceStatus⟩

/-- Custom resources survive the wire: the specification, the status if there is one, and the metadata with its
version. A status that is replaced is sent with the metadata and the specification that its object had. -/
theorem custom_survives :
    Kind.cluster.SurvivesWire (RecordWire.rules Cluster) (fun status (c : Cluster) => { c with status }) ∧
    Kind.role.SurvivesWire (RecordWire.rules Role) (fun status (r : Role) => { r with status }) ∧
    Kind.cartridgeConfig.SurvivesWire (RecordWire.rules CartridgeConfig)
      (fun status (c : CartridgeConfig) => { c with status }) := by
  have : LawfulWire (Kind.Object .cluster) := inferInstanceAs (LawfulWire Cluster)
  have : LawfulWire (Kind.Object .role) := inferInstanceAs (LawfulWire Role)
  have : LawfulWire (Kind.Object .cartridgeConfig) := inferInstanceAs (LawfulWire CartridgeConfig)
  let _ : RecordWire (Kind.Object .cluster) := inferInstanceAs (RecordWire Cluster)
  let _ : RecordWire (Kind.Object .role) := inferInstanceAs (RecordWire Role)
  let _ : RecordWire (Kind.Object .cartridgeConfig) := inferInstanceAs (RecordWire CartridgeConfig)
  exact ⟨survivesWire_of_lawful .cluster _, survivesWire_of_lawful .role _, survivesWire_of_lawful .cartridgeConfig _⟩

end Kind

namespace Role

/-! ### An example: a role about which less is said -/

/-- A role without a status. -/
def router : Role where
  metadata := { ObjectMeta.blank with name := some "router", resourceVersion := some "7" }
  spec := { RoleSpec.default with vshard := { VshardSpec.default with clusterRoles := ["vshard-router"] } }
  status := none

/-- The role as it may be stored. -/
def stored : Members := [
  ("metadata", .obj [("name", .str "router"), ("resourceVersion", .str "7")]),
  ("spec", .obj [
    ("replicasets", .int 1),
    ("vshard", .obj [("clusterRoles", .arr [.str "vshard-router"]), ("weight", .int 100)])])]

/-- The same with defaults left out, and with members that are not known. -/
def pruned : Members := [
  ("metadata", .obj [("name", .str "router"), ("resourceVersion", .str "7")]),
  ("spec", .obj [
    ("colour", .str "red"),
    ("vshard", .obj [("clusterRoles", .arr [.str "vshard-router"]), ("zone", .int 3)])])]

theorem edited_pruned : stored.Edited (RecordWire.rules Role) pruned := by
  have hvshard : Members.Edited (RecordWire.rules VshardSpec)
      [("clusterRoles", .arr [.str "vshard-router"]), ("weight", .int 100)]
      [("clusterRoles", .arr [.str "vshard-router"]), ("zone", .int 3)] :=
    List.forall_mem_cons.2 ⟨.kept none, List.forall_mem_cons.2 ⟨.kept (some _),
      List.forall_mem_singleton.2 (.dropped _ rfl)⟩⟩
  have hspec : Members.Edited (RecordWire.rules RoleSpec)
      [("replicasets", .int 1), ("vshard", .obj [("clusterRoles", .arr [.str "vshard-router"]), ("weight", .int 100)])]
      [("colour", .str "red"), ("vshard", .obj [("clusterRoles", .arr [.str "vshard-router"]), ("zone", .int 3)])] :=
    List.forall_mem_cons.2 ⟨.dropped _ rfl, List.forall_mem_cons.2 ⟨.kept none, List.forall_mem_cons.2 ⟨.kept none,
      List.forall_mem_singleton.2 (.inside hvshard)⟩⟩⟩
  exact List.forall_mem_cons.2 ⟨.kept (some _), List.forall_mem_cons.2 ⟨.inside hspec,
    List.forall_mem_singleton.2 (.kept none)⟩⟩

theorem pruned_survives : Wire.read (.obj stored) = some router ∧
    ∃ r : Role, Wire.read (.obj pruned) = some r ∧ Wire.read (Wire.write r) = some r := by
  have hread : Wire.read (.obj stored) = some router := by rfl
  exact ⟨hread, Kind.custom_survives.2.1.reread stored pruned router hread edited_pruned⟩

end Role

end ClusterKeeper
