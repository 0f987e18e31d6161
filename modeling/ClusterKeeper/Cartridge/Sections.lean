import ClusterKeeper.Json.Basic

/-!
The sections of the clusterwide config. Some belong to Cartridge itself; they are never read and
never uploaded.
-/

namespace ClusterKeeper

/-- The clusterwide config, by section. -/
abbrev Sections := SortedMap Json

namespace Sections

/-- The sections that Cartridge owns. -/
def reserved : List String :=
  ["auth", "auth.yml", "topology", "topology.yml", "users_acl", "users_acl.yml", "vshard",
    "vshard.yml", "vshard_groups", "vshard_groups.yml", "schema.yml"]

/-- The reserved sections as a set, in the form a script takes it. -/
def reservedSet : Json := .object (reserved.map (·, .bool true))

/-- The sections that are not reserved. -/
def free (config : Sections) : Sections := config.filter (fun e => e.1 ∉ reserved)

/-- Whether every wanted section is there with an equal value. -/
def subset (wanted actual : Sections) : Bool :=
  wanted.entries.all fun e =>
    match actual.get? e.1 with
    | some value => e.2.same value
    | none => false

/-- The config after every section of a patch has been set. -/
def patched (config patch : Sections) : Sections := config.union patch

end Sections

end ClusterKeeper
