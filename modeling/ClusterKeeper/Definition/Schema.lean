import ClusterKeeper.Json.Wire

/-!
Schemas of records, as the definitions of custom resources carry them. A member of a record is required,
optional or has a default; an optional one may also be null. The schema of a type that belongs to
Kubernetes itself is not of this library's making, and whoever writes a schema says what stands there.
-/

namespace ClusterKeeper

/-- Whether a member has to be given, and what it is if it is not. -/
inductive Presence where
  | required
  | optional
  | defaulted (value : Json)

mutual

/-- The values that a member may have. -/
inductive Schema where
  | text
  | flag
  /-- An integer of 32 bits. -/
  | integer
  /-- One of some names. -/
  | oneOf (names : List String)
  | texts
  | record (members : List SchemaMember)
  /-- A type that belongs to Kubernetes. -/
  | foreign

/-- A member of a record. -/
inductive SchemaMember where
  | mk (name description : String) (presence : Presence) (schema : Schema)

end

namespace SchemaMember

/-- The name of a member. -/
def name : SchemaMember → String
  | mk n .. => n

/-- Whether a member has to be given. -/
def isRequired : SchemaMember → Bool
  | mk _ _ .required _ => true
  | mk .. => false

end SchemaMember

namespace Presence

/-- What the schema of a member says about its absence. -/
def said : Presence → List (String × Json)
  | required => []
  | optional => [("nullable", .bool true)]
  | defaulted value => [("default", value)]

end Presence

namespace Schema

/-- The names of the members that have to be given. -/
def requiredNames (members : List SchemaMember) : List String :=
  (members.filter (·.isRequired)).map (·.name)

mutual

/-- What a schema says about values; `elsewhere` stands for the schemas of Kubernetes. -/
def said (elsewhere : Json) : Schema → List (String × Json)
  | text => [("type", .str "string")]
  | flag => [("type", .str "boolean")]
  | integer => [("type", .str "integer"), ("format", .str "int32")]
  | oneOf names => [("type", .str "string"), ("enum", .arr (names.map .str))]
  | texts => [("type", .str "array"), ("items", .object [("type", .str "string")])]
  | record members =>
    [("type", .str "object"), ("properties", .object (properties elsewhere members))] ++
      match requiredNames members with
      | [] => []
      | names => [("required", .arr (names.map .str))]
  | foreign => []

/-- The schema of a member. -/
def property (elsewhere : Json) : SchemaMember → String × Json
  | .mk name _ _ .foreign => (name, elsewhere)
  | .mk name description presence schema =>
    (name, .object (("description", .str description) :: presence.said ++ schema.said elsewhere))

/-- The schemas of some members. -/
def properties (elsewhere : Json) : List SchemaMember → List (String × Json)
  | [] => []
  | m :: ms => property elsewhere m :: properties elsewhere ms

end

end Schema

end ClusterKeeper
