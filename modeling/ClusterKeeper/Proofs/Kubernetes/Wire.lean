import ClusterKeeper.Kubernetes.StatefulSet
import ClusterKeeper.Proofs.Json.Wire

/-!
Metadata, the templates of pods and volume claims come back from the wire as they were written
(`LawfulWire ObjectMeta`, `LawfulWire PodTemplate`, `LawfulWire VolumeClaim`).
-/

namespace ClusterKeeper.LawfulWire

open Members Member

/-! ### Metadata -/

instance : LawfulWire Timestamp where
  read_write t := dif_pos t.wellFormed
  write_ne_null := nofun

instance : LawfulWire OwnerReference :=
  .of_present (fun _ => rfl) (fun _ => by simp [always, ifSome]) fun o found hget => by
    simp only [Wire.read, Json.members?, Option.bind_eq_bind, Option.bind_some]
    rw [lenient_write "" (hget "apiVersion"), lenient_write "" (hget "kind"), lenient_write "" (hget "name"),
      lenient_write "" (hget "uid"), optional_ifSome (hget "controller")]
    rfl

instance : LawfulWire ObjectMeta :=
  .of_present (fun _ => rfl) (fun _ => by simp [ifSome]) fun m found hget => by
    simp only [Wire.read, Json.members?, Option.bind_eq_bind, Option.bind_some]
    rw [optional_ifSome (hget "name"), optional_ifSome (hget "namespace"), optional_ifSome (hget "uid"),
      optional_ifSome (hget "resourceVersion"), optional_ifSome (hget "generation"),
      optional_ifSome (hget "labels"), optional_ifSome (hget "annotations"), optional_ifSome (hget "finalizers"),
      optional_ifSome (hget "ownerReferences"), optional_ifSome (hget "deletionTimestamp")]
    rfl

/-! ### Pods -/

instance : LawfulWire EnvVar :=
  .of_present (fun _ => rfl) (fun _ => by simp [always, ifSome]) fun e found hget => by
    simp only [Wire.read, Json.members?, Option.bind_eq_bind, Option.bind_some]
    rw [lenient_write "" (hget "name"), optional_ifSome (hget "value")]
    rfl

instance : LawfulWire ContainerPort :=
  .of_present (fun _ => rfl) (fun _ => by simp [always, ifSome]) fun p found hget => by
    simp only [Wire.read, Json.members?, Option.bind_eq_bind, Option.bind_some]
    rw [optional_ifSome (hget "name"), lenient_write 0 (hget "containerPort"), optional_ifSome (hget "protocol")]
    rfl

instance : LawfulWire ResourceRequirements :=
  .of_present (fun _ => rfl) (fun _ => by simp [ifSome]) fun r found hget => by
    simp only [Wire.read, Json.members?, Option.bind_eq_bind, Option.bind_some]
    rw [optional_ifSome (hget "limits"), optional_ifSome (hget "requests")]
    rfl

instance : LawfulWire Container :=
  .of_present (fun _ => rfl) (fun _ => by simp [always, ifSome]) fun c found hget => by
    simp only [Wire.read, Json.members?, Option.bind_eq_bind, Option.bind_some]
    rw [lenient_write "" (hget "name"), optional_ifSome (hget "image"), optional_ifSome (hget "command"),
      optional_ifSome (hget "args"), optional_ifSome (hget "env"), optional_ifSome (hget "ports"),
      optional_ifSome (hget "workingDir"), optional_ifSome (hget "tty"), optional_ifSome (hget "stdin"),
      optional_ifSome (hget "resources")]
    rfl

instance : LawfulWire PodSpec :=
  .of_present (fun _ => rfl) (fun _ => by simp [always, ifSome]) fun s found hget => by
    simp only [Wire.read, Json.members?, Option.bind_eq_bind, Option.bind_some]
    rw [lenient_write [] (hget "containers"), optional_ifSome (hget "initContainers"),
      optional_ifSome (hget "terminationGracePeriodSeconds"), optional_ifSome (hget "serviceAccountName"),
      optional_ifSome (hget "restartPolicy"), optional_ifSome (hget "hostNetwork"),
      optional_ifSome (hget "hostname"), optional_ifSome (hget "nodeSelector")]
    rfl

instance : LawfulWire PodTemplate :=
  .of_present (fun _ => rfl) (fun _ => by simp [ifSome]) fun t found hget => by
    simp only [Wire.read, Json.members?, Option.bind_eq_bind, Option.bind_some]
    rw [optional_ifSome (hget "metadata"), optional_ifSome (hget "spec")]
    rfl

/-! ### StatefulSets -/

instance : LawfulWire VolumeClaimSpec :=
  .of_present (fun _ => rfl) (fun _ => by simp [ifSome]) fun s found hget => by
    simp only [Wire.read, Json.members?, Option.bind_eq_bind, Option.bind_some]
    rw [optional_ifSome (hget "accessModes"), optional_ifSome (hget "resources")]
    rfl

theorem fixed_write {ms : Members} {k text : String} (h : Entries.get? ms k = some (Wire.write text)) :
    ms.fixed k text = some () := by
  rw [fixed, h]
  exact if_pos rfl

instance : LawfulWire VolumeClaim :=
  .of_present (fun _ => rfl) (fun _ => by simp [always, ifSome]) fun c found hget => by
    simp only [Wire.read, Json.members?, Option.bind_eq_bind, Option.bind_some]
    rw [fixed_write (hget "apiVersion"), Option.bind_some, fixed_write (hget "kind"), Option.bind_some,
      lenient_write .blank (hget "metadata"), optional_ifSome (hget "spec")]
    rfl

instance : LawfulWire RollingUpdate :=
  .of_present (fun _ => rfl) (fun _ => by simp [ifSome]) fun r found hget => by
    simp only [Wire.read, Json.members?, Option.bind_eq_bind, Option.bind_some]
    rw [optional_ifSome (hget "partition")]
    rfl

instance : LawfulWire UpdateStrategy :=
  .of_present (fun _ => rfl) (fun _ => by simp [ifSome]) fun s found hget => by
    simp only [Wire.read, Json.members?, Option.bind_eq_bind, Option.bind_some]
    rw [optional_ifSome (hget "type"), optional_ifSome (hget "rollingUpdate")]
    rfl

end ClusterKeeper.LawfulWire
