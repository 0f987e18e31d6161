import ClusterKeeper.Pass.Resolve

/-!
The pass over a clusterwide config. Once the cluster is bootstrapped it uploads the sections of the
document, unless the cluster has them all.
-/

namespace ClusterKeeper

/-- The state of a pass over a clusterwide config. -/
abbrev ConfigPass := MemberPass CartridgeConfig

namespace ConfigPass

/-- Uploads the sections of the document when the cluster does not have them all. -/
def configure : Step ConfigPass :=
  .reading "Configure" fun c => do
    match c.object, c.leader with
    | none, _ => return .complete
    | some _, none => throw (.invalidConfig "leader is not resolved")
    | some config, some leader =>
      let wanted : Sections ← MonadExcept.ofExcept (Sections.ofYaml config.spec.data)
      let actual : Sections ← Attempt.admin (.cartridgeConfig leader)
      if wanted.subset actual then
        Attempt.log .debug "Cartridge config is up to date"
        return .next
      Attempt.log .info "Applying cartridge config"
      Attempt.admin (.applyCartridgeConfig leader wanted)
      return .next

/-- The steps of a pass over a clusterwide config. -/
def steps : List (Step ConfigPass) := [
  Pass.info,
  Pass.getRequestedObject,
  Pass.resetStatus,
  Pass.setPhase CartridgeConfigPhase.waitingForCluster,
  Pass.getClusterByLabels,
  Pass.waitForClusterBootstrapped,
  Pass.setPhase CartridgeConfigPhase.waitingForLeader,
  Pass.getLeader,
  Pass.setPhase CartridgeConfigPhase.applying,
  configure,
  Pass.setPhase CartridgeConfigPhase.ready]

end ConfigPass

end ClusterKeeper
