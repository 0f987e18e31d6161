import ClusterKeeper.Pass.Surroundings

/-!
The failover parameters that a cluster asks for. In stateful mode they hold the settings of the state
provider that is named, with the password read from a secret; in any other mode the mode and the timeout
are all.
-/

namespace ClusterKeeper.Failover

/-- The key of a password in a secret, by default. -/
def defaultKey : StateProvider → String
  | .etcd2 => "etcd2-password"
  | .stateboard => "stateboard-password"

/-- The password that a reference leads to. -/
def readPassword (clusterNs : String) (defaultKey : String) (r : SecretReference) : Attempt String := do
  let ns := r.ns.getD clusterNs
  let key := r.key.getD defaultKey
  let place := "secret " ++ ns ++ "/" ++ r.name
  match ← Attempt.get .secret ns r.name with
  | none => throw (.notFound "Secret" ns r.name)
  | some secret =>
    match (secret.data.getD .empty).get? key with
    | none => throw (.invalidConfig (place ++ " has no key " ++ key))
    | some bytes =>
      match bytes.text? with
      | none => throw (.invalidConfig (place ++ " key " ++ key ++ " is not valid UTF-8"))
      | some text => return text

/-- The password of a provider, empty when there is no reference to one. -/
def password (clusterNs : String) (provider : StateProvider) :
    Option SecretReference → Attempt String
  | none => pure ""
  | some r => readPassword clusterNs (defaultKey provider) r

/-- The parameters of stateful failover without the settings of the state provider. -/
def stateful (s : FailoverSpec) : FailoverParams :=
  { FailoverParams.plain s.mode s.timeout with
    fencingEnabled := s.fencing
    fencingTimeout := s.fencingTimeout
    fencingPause := s.fencingPause }

/-- The failover parameters that a cluster asks for. -/
def wanted (cluster : Cluster) : Attempt FailoverParams := do
  let s := cluster.spec.failover
  if s.mode ≠ .stateful then return .plain s.mode s.timeout
  match s.stateProvider with
  | none => throw (.invalidConfig "stateful failover requires a state provider")
  | some .etcd2 =>
    match s.etcd2 with
    | none => throw (.invalidConfig "etcd2 state provider requires etcd2 settings")
    | some e =>
      let password ← password cluster.nsOf .etcd2 e.password
      return { stateful s with
        stateProvider := some .etcd2
        etcd2 := some {
          endpoints := e.endpoints
          username := e.username
          password
          lockDelay := e.lockDelay
          keyPrefix := e.keyPrefix } }
  | some .stateboard =>
    match s.stateboard with
    | none => throw (.invalidConfig "stateboard state provider requires stateboard settings")
    | some b =>
      let password ← password cluster.nsOf .stateboard b.password
      return { stateful s with
        stateProvider := some .stateboard
        stateboard := some { uri := b.uri, password } }

end ClusterKeeper.Failover
