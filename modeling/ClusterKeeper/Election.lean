import ClusterKeeper.Pass.Surroundings
import ClusterKeeper.Replicaset.Identity

/-!
The election of the topology's leader. Every request that concerns the topology as a whole goes to one
instance, the leader. The cluster's status records it, so that all passes agree on it, and it changes
only when the recorded one cannot be used.

Until the storages are bootstrapped a lost leader is not replaced, because another one would start a
second topology beside the first.
-/

namespace ClusterKeeper.Election

/-- Asks an instance whether it can lead: whether it has applied its roles once the storages are
bootstrapped, and whether it has started before that. -/
def probe (cluster : Cluster) (pod : Pod) : ExceptT AdminError Act Bool :=
  if cluster.isBootstrapped then Act.admin (.isCartridgeConfigured pod)
  else Act.admin (.isCartridgeStarted pod)

/-- Whether an instance can lead. One that cannot be reached is an error and not a no, so that a slow
answer never moves the leadership. -/
def canLead (cluster : Cluster) (pod : Pod) : Attempt Bool := do
  if pod.isDeleting || !pod.isRunning then return false
  match ← ExceptT.lift (probe cluster pod).run with
  | .ok ready => return ready
  | .error e =>
    if e.isTransport then throw (.admin e)
    Attempt.log .debug "Instance state probe failed"
    return false

/-- The pod of a recorded leader, which has to be able to lead. -/
def recorded (cluster : Cluster) (leader : String) : Attempt Pod := do
  match ← Attempt.get .pod cluster.nsOf leader with
  | none => throw (.leaderNotReady leader)
  | some pod => if ← canLead cluster pod then return pod else throw (.leaderNotReady leader)

/-- The name of an instance: of a role, a replicaset in it, and a replica in that. -/
def instanceName (role : Role) (replicaset replica : Nat) : String :=
  podName (Replicaset.name role.name replicaset) replica

/-- The pod of a role's instance, if there is such an instance, it is not the previous leader and it
can lead. -/
def candidate (cluster : Cluster) (previous : Option String) (replica replicaset : Nat) (role : Role) :
    Attempt (Option Pod) := do
  if role.replicasets ≤ replicaset ∨ role.replicas ≤ replica then return none
  let name := instanceName role replicaset replica
  if previous = some name then return none
  match ← Attempt.get .pod cluster.nsOf name with
  | none => return none
  | some pod =>
    match ← ExceptT.lift (canLead cluster pod).run with
    | .ok true => return some pod
    | .ok false => return none
    | .error _ =>
      Attempt.log .debug "Skipping unreachable candidate"
      return none

/-- The largest count that any of some roles has. -/
def largest (count : Role → Int) (roles : List Role) : Nat :=
  roles.foldl (fun n role => max n (count role).toNat) 0

/-- The first instance that can lead. Instances are tried replica by replica, in each replicaset by
replicaset, in each role by role, so that the first instance of the first replicaset of every role comes
before any second instance. -/
def search (cluster : Cluster) (roles : List Role) (previous : Option String) : Attempt (Option Pod) :=
  Program.firstUpTo
    (fun replica => Program.firstUpTo
      (fun replicaset => Program.firstOf (candidate cluster previous replica replicaset) roles)
      (largest Role.replicasets roles) 0)
    (largest Role.replicas roles) 0

/-- The event of an election. -/
def elected (leader : String) : Event :=
  ⟨.normal, "NewTopologyLeaderElected", "Pod " ++ leader ++ " is a new topology leader"⟩

/-- Elects a leader and records it, which gives the cluster as it is stored then. -/
def elect (cluster : Cluster) (previous : Option String) : Attempt (Pod × Cluster) := do
  let roles ← Attempt.list .role cluster.nsOf (Labels.clusterSelector cluster.name)
  match ← search cluster roles previous with
  | none => throw .noAvailableLeader
  | some pod =>
    match ← ExceptT.lift (Attempt.replaceStatus .cluster (cluster.setLeader pod.name)).run with
    | .error e => throw (if e.isConflict then .leaderElectionConflict else e)
    | .ok stored =>
      Attempt.log .info "New topology leader elected"
      Attempt.record (KubeObject.reference stored) (elected pod.name)
      return (pod, stored)

/-- The leader of a cluster, elected when it has to be, with the cluster as it is then. -/
def leaderFor (cluster : Cluster) : Attempt (Pod × Cluster) := do
  match cluster.leader with
  | none => elect cluster none
  | some leader =>
    match ← ExceptT.lift (recorded cluster leader).run with
    | .ok pod => return (pod, cluster)
    | .error (.leaderNotReady lost) =>
      if cluster.isBootstrapped && cluster.foreignLeader.isNone then
        Attempt.log .warn "Topology leader is not ready, electing a new one"
        elect cluster (some lost)
      else throw (.leaderNotReady lost)
    | .error e => throw e

end ClusterKeeper.Election
