import ClusterKeeper.Proofs.Cartridge.RoleUpdate

/-!
Edits of the topology as arguments of calls. Members with their defaults are left out of an argument at every
level, so it is not plain that an argument still says which edit was asked for. It does: reading what is absent as
the default gives the edit back (`LawfulWire EditTopology`). So requests that differ send arguments that differ,
and the only joins that send what a setting of roles sends are those of no instance that say nothing else.

Main statement: edits are told by their arguments (`EditTopology.told_by_argument`).
-/

namespace ClusterKeeper

namespace LawfulWire

instance : LawfulWire JoinServer :=
  .of_present (fun _ => rfl) (fun _ => by simp [Member.always, Member.unlessDefault]) fun s found hget => by
    simp only [Wire.read, Json.members?, Option.bind_eq_bind, Option.bind_some]
    rw [Members.defaulted_write "" (hget "uri"), Members.defaulted_unlessDefault (hget "uuid")]
    rfl

instance : LawfulWire EditReplicaset :=
  .of_present (fun r => (rfl : Wire.write r = Json.present r.members))
    (fun _ => by simp [Member.unlessDefault]) fun r found hget => by
    simp only [Wire.read, Json.members?, Option.bind_eq_bind, Option.bind_some]
    rw [Members.defaulted_unlessDefault (hget "uuid"), Members.defaulted_unlessDefault (hget "alias"),
      Members.defaulted_unlessDefault (hget "roles"), Members.defaulted_unlessDefault (hget "all_rw"),
      Members.defaulted_unlessDefault (hget "weight"), Members.defaulted_unlessDefault (hget "failover_priority"),
      Members.defaulted_unlessDefault (hget "vshard_group"), Members.defaulted_unlessDefault (hget "join_servers")]
    rfl

instance : LawfulWire EditServer :=
  .of_present (fun _ => rfl) (fun _ => by simp [Member.always, Member.unlessDefault]) fun s found hget => by
    simp only [Wire.read, Json.members?, Option.bind_eq_bind, Option.bind_some]
    rw [Members.defaulted_unlessDefault (hget "uri"), Members.defaulted_write "" (hget "uuid"),
      Members.defaulted_unlessDefault (hget "disabled"), Members.defaulted_unlessDefault (hget "expelled")]
    rfl

instance : LawfulWire EditTopology :=
  .of_present (fun _ => rfl) (fun _ => by simp [Member.unlessDefault]) fun t found hget => by
    simp only [Wire.read, Json.members?, Option.bind_eq_bind, Option.bind_some]
    rw [Members.defaulted_unlessDefault (hget "servers"), Members.defaulted_unlessDefault (hget "replicasets")]
    rfl

end LawfulWire

namespace EditTopology

variable {r r' : JoinRequest} {uris uris' roles roles' : List String} {uuid uuid' : String}

/-- A join is told by its edit. -/
theorem join_inj : join r uris = join r' uris' ↔ r = r' ∧ uris = uris' := by
  constructor
  · intro h
    obtain ⟨name, uuid, roles, weight, group, allRw⟩ := r
    obtain ⟨name', uuid', roles', weight', group', allRw'⟩ := r'
    have hservers : Function.Injective fun uri : String => JoinServer.mk uri "" :=
      fun _ _ heq => (JoinServer.mk.inj heq).1
    simp only [join, EditTopology.mk.injEq, List.cons.injEq, EditReplicaset.mk.injEq,
      (List.map_injective_iff.2 hservers).eq_iff] at h
    simp [h]
  · rintro ⟨rfl, rfl⟩
    rfl

/-- So is a setting of roles. -/
theorem setRoles_inj : setRoles uuid roles = setRoles uuid' roles' ↔ uuid = uuid' ∧ roles = roles' := by
  simp [setRoles]

/-- A join is the edit of a setting of roles if no instance joins and nothing else is said. -/
theorem join_eq_setRoles_iff :
    join r uris = setRoles uuid roles ↔ r = ⟨"", uuid, roles, 0, "", false⟩ ∧ uris = [] := by
  constructor
  · intro h
    obtain ⟨name', uuid', roles', weight', group', allRw'⟩ := r
    simp only [join, setRoles, EditReplicaset.blank, EditTopology.mk.injEq, List.cons.injEq,
      EditReplicaset.mk.injEq, List.map_eq_nil_iff] at h
    simp [h]
  · rintro ⟨rfl, rfl⟩
    rfl

/-- The replicaset of a join. -/
def joined (r : JoinRequest) (uris : List String) : EditReplicaset :=
  { EditReplicaset.blank with
    uuid := r.uuid
    name := r.name
    roles := r.roles
    weight := r.weight
    vshardGroup := r.vshardGroup
    allRw := r.allRw
    joinServers := uris.map fun uri => ⟨uri, ""⟩ }

/-- Its instances are the ones that join, in their order. -/
theorem get?_joined (r : JoinRequest) (uris : List String) :
    Entries.get? (Member.written (joined r uris).members) "join_servers" =
      if uris = [] then none else some (.arr (uris.map fun uri => .obj [("uri", .str uri)])) := by
  have hkeys : ((joined r uris).members.map Member.key).Nodup := by
    simp [EditReplicaset.members, Member.unlessDefault]
  have hget := Member.get?_written (joined r uris).members hkeys "join_servers"
  have hservers : (joined r uris).joinServers.map Wire.write = uris.map fun uri => .obj [("uri", .str uri)] := by
    rw [joined, List.map_map]
    rfl
  have hnone : (joined r uris).joinServers = [] ↔ uris = [] := List.map_eq_nil_iff
  rw [hget, ← hservers]
  show (if (joined r uris).joinServers = [] then none else some _) = _
  rw [if_congr hnone rfl rfl]
  rfl

/-- Edits come back from the arguments that they are written as, when what is absent is read as its default. So
the arguments of two joins are the same only for the same request and the same instances, and so are those of two
settings of roles; a join sends what a setting of roles sends only if no instance joins and nothing else is said.
And a join sends one replicaset, with the instances that join in their order, or without this member if there is
none. -/
theorem told_by_argument :
    (∀ edit : EditTopology, Wire.read (Wire.write edit) = some edit) ∧
    (∀ leader r uris leader' r' uris',
      (AdminRequest.join leader r uris).args = (AdminRequest.join leader' r' uris').args ↔ r = r' ∧ uris = uris') ∧
    (∀ leader uuid roles leader' uuid' roles',
      (AdminRequest.setReplicasetRoles leader uuid roles).args =
        (AdminRequest.setReplicasetRoles leader' uuid' roles').args ↔ uuid = uuid' ∧ roles = roles') ∧
    (∀ leader r uris leader' uuid roles,
      (AdminRequest.join leader r uris).args = (AdminRequest.setReplicasetRoles leader' uuid roles).args ↔
        r = ⟨"", uuid, roles, 0, "", false⟩ ∧ uris = []) ∧
    ∀ leader r uris, ∃ replicaset : Members,
      (AdminRequest.join leader r uris).args = [.obj [("replicasets", .arr [.obj replicaset])]] ∧
      Entries.get? replicaset "join_servers" =
        if uris = [] then none else some (.arr (uris.map fun uri => .obj [("uri", .str uri)])) := by
  have hargs : ∀ {edit edit' : EditTopology}, [Wire.write edit] = [Wire.write edit'] ↔ edit = edit' := by
    intro edit edit'
    rw [List.singleton_inj, LawfulWire.write_injective.eq_iff]
  exact ⟨LawfulWire.read_write, fun _ r uris _ r' uris' => hargs.trans join_inj,
    fun _ uuid roles _ uuid' roles' => hargs.trans setRoles_inj,
    fun _ r uris _ uuid roles => hargs.trans join_eq_setRoles_iff,
    fun _ r uris => ⟨Member.written (joined r uris).members, rfl, get?_joined r uris⟩⟩

end EditTopology

end ClusterKeeper
