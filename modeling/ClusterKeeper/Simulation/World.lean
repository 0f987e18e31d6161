import ClusterKeeper.Controller
import ClusterKeeper.Pass.Surroundings
import ClusterKeeper.Simulation.Objects
import ClusterKeeper.Simulation.Topology

/-!
Surroundings in memory: objects, a topology, a record of what passes did, and rules that make requests
fail or let somebody else change an object just before a request is carried out.
-/

namespace ClusterKeeper

namespace StoreRequest

/-- Whether a request changes an object. -/
def isWrite : StoreRequest → Bool
  | get .. | list .. => false
  | create .. | replace .. | replaceStatus .. => true

end StoreRequest

namespace Simulation

/-- The kind's name in the names of requests. -/
def nounOf : Kind → String
  | .cluster => "cluster"
  | .role => "role"
  | .cartridgeConfig => "cartridge_config"
  | .pod => "pod"
  | .statefulSet => "stateful_set"
  | .service => "service"
  | .secret => "secret"

/-- The name of a request to the store. -/
def storeCall : StoreRequest → String
  | .get k .. => "get_" ++ nounOf k
  | .list k .. => "list_" ++ nounOf k ++ "s"
  | .create k _ => "create_" ++ nounOf k
  | .replace k _ => "replace_" ++ nounOf k
  | .replaceStatus k _ => "replace_" ++ nounOf k ++ "_status"

/-- What a request to the store is about: the name of an object, or the text of a selector. -/
def storeSubject : StoreRequest → String
  | .get _ _ name => name
  | .list _ _ selector => Labels.selectorText selector
  | .create _ o | .replace _ o | .replaceStatus _ o => KubeObject.name o

/-- The name of a request to an instance. -/
def adminCall : AdminRequest → String
  | .join .. => "join"
  | .instanceUuid _ => "instance_uuid"
  | .setWeight .. => "set_weight"
  | .replicasetRoles .. => "replicaset_roles"
  | .setReplicasetRoles .. => "set_replicaset_roles"
  | .bootstrapVshard _ => "bootstrap_vshard"
  | .rolesHierarchy _ => "roles_hierarchy"
  | .setFailoverParams .. => "set_failover_params"
  | .failoverParams _ => "failover_params"
  | .cartridgeConfig _ => "cartridge_config"
  | .applyCartridgeConfig .. => "apply_cartridge_config"
  | .isCartridgeStarted _ => "is_cartridge_started"
  | .isCartridgeConfigured _ => "is_cartridge_configured"

/-- What a request to an instance is about: a replicaset, or the pod of the instance. -/
def adminSubject : AdminRequest → String
  | .join _ r _ => r.uuid
  | .setWeight _ uuid _ | .replicasetRoles _ uuid | .setReplicasetRoles _ uuid _ => uuid
  | q => q.pod.name

/-- An object that somebody else changes. -/
structure Target where
  kind : Kind
  ns : String
  name : String

/-- What happens before requests of a name, about one subject or any. -/
structure Rule where
  call : String
  subject : Option String
  /-- How many requests are let through first. -/
  skip : Nat
  /-- How many requests are affected, all of them when nothing is said. -/
  times : Option Nat
  error : Option OperatorError
  touch : Option Target
  remove : Option Target

namespace Rule

/-- Whether a rule is about a request. -/
def Concerns (r : Rule) (call subject : String) : Prop :=
  r.call = call ∧ (r.subject = none ∨ r.subject = some subject)

instance (r : Rule) (call subject : String) : Decidable (r.Concerns call subject) :=
  inferInstanceAs (Decidable (_ ∧ (_ ∨ _)))

/-- What a rule does to the objects. -/
def act (r : Rule) (os : Objects) : Objects :=
  let os := match r.touch with
    | some t => os.touch t.kind t.ns t.name
    | none => os
  match r.remove with
  | some t => os.drop t.kind t.ns t.name
  | none => os

/-- What rules do before a request: the rules after it, the objects, and the error of the first rule that
has one, if there is such a rule. -/
def applyAll (call subject : String) :
    List Rule → Objects → List Rule × Objects × Option OperatorError
  | [], os => ([], os, none)
  | r :: rs, os =>
    let goOn (r : Rule) (os : Objects) :=
      let (rs, os, e) := applyAll call subject rs os
      (r :: rs, os, e)
    if ¬ r.Concerns call subject then goOn r os
    else if 0 < r.skip then goOn { r with skip := r.skip - 1 } os
    else if r.times = some 0 then goOn r os
    else
      let os := r.act os
      let r := { r with times := r.times.map (· - 1) }
      match r.error with
      | some e => (r :: rs, os, some e)
      | none => goOn r os

end Rule

/-- A request that is kept in the record of a step. -/
inductive Traced where
  | store (call name : String)
  | admin (q : AdminRequest)

/-- Surroundings in memory. -/
structure World where
  objects : Objects
  topology : Topology
  rules : List Rule
  /-- The writes to the store and the requests to instances, the latest first. -/
  trace : List Traced
  /-- The events, the latest first. -/
  events : List (ObjectReference × Event)
  /-- The lines of the log, the latest first. -/
  lines : List (LogLevel × String)

namespace World

/-- A world in which nothing has happened. -/
def blank : World := ⟨.blank, .blank, [], [], [], []⟩

instance : Inhabited World := ⟨blank⟩

/-- The world without a record. -/
def forget (w : World) : World := { w with trace := [], events := [], lines := [] }

/-- What the rules do before a request, and the error they make it fail with. -/
def ruled (w : World) (call subject : String) : Option OperatorError × World :=
  let (rules, objects, e) := Rule.applyAll call subject w.rules w.objects
  (e, { w with rules, objects })

/-- The answer to a request to the store. -/
def answerStore (w : World) (q : StoreRequest) : Except OperatorError q.Result × World :=
  let w := if q.isWrite then { w with trace := .store (storeCall q) (storeSubject q) :: w.trace } else w
  match w.ruled (storeCall q) (storeSubject q) with
  | (some e, w) => (.error e, w)
  | (none, w) =>
    let (r, objects) := w.objects.answer q
    (r, { w with objects })

/-- The answer to a request to an instance. -/
def answerAdmin (w : World) (q : AdminRequest) : Except AdminError q.Result × World :=
  let w := { w with trace := .admin q :: w.trace }
  match w.ruled (adminCall q) (adminSubject q) with
  | (some (.admin e), w) => (.error e, w)
  | (_, w) =>
    let (r, topology) := w.topology.answer q
    (r, { w with topology })

/-- The answer to a request of a pass. -/
def answer : (q : Request) → StateM World q.Answer
  | .store q => fun w => w.answerStore q
  | .admin q => fun w => w.answerAdmin q
  | .record about event => modify fun w => { w with events := (about, event) :: w.events }
  | .log level message => modify fun w => { w with lines := (level, message) :: w.lines }

/-- Runs a program in the world. -/
def run {α : Type} (w : World) (p : Act α) : α × World := (Program.run answer p).run w

/-- The pod that a StatefulSet makes. -/
def podOf (s : StatefulSet) (name : String) : Pod where
  metadata := { ObjectMeta.blank with
    name := some name
    ns := some s.metadata.nsText
    labels := some (((s.spec.bind fun spec => spec.template.podLabels)).getD .empty) }
  spec := none
  status := some {
    phase := some "Running"
    containerStatuses :=
      some [{ name := "pod", image := "", imageID := "", ready := true, restartCount := 0 }] }

/-- Makes a pod of a StatefulSet unless it exists; it starts at once if that is asked for. The names of
the pods that are made go to a list, the latest first. -/
def spawnPod (start : Bool) (s : StatefulSet) (acc : List String × World) (ordinal : Nat) :
    List String × World :=
  let w := acc.2
  let name := podName s.name ordinal
  if (w.objects.find? .pod s.metadata.nsText name).isSome then acc
  else
    let (_, objects) := w.objects.put .pod (podOf s name)
    let topology := if start then
        { w.topology with started := w.topology.started.insert name () }
      else w.topology
    (name :: acc.1, { w with objects, topology })

/-- Makes the missing pods of all StatefulSets, and tells their names. -/
def spawnPods (w : World) (start : Bool) : List String × World :=
  let (names, w) := ((w.objects.shelf .statefulSet).all).foldl
    (fun acc e =>
      let s := e.2.2
      let replicas := ((s.spec.bind (·.replicas)).getD 0).toInt.toNat
      (List.range replicas).foldl (spawnPod start s) acc)
    ([], w)
  (names.reverse, w)

end World

end Simulation

end ClusterKeeper
