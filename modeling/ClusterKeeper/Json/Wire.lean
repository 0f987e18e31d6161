import ClusterKeeper.Json.Basic

/-!
Typed values on the wire. `Wire α` pairs the reader of a type with its writer; `Members` are the
members of a record while it is read.

Two kinds of records are read. An *object record*, as the Kubernetes types are, is an object and
nothing else, and a member that is `null` counts as absent. A *positional record* may also be
given as an array of its members in their declared order, the last ones left out at will; there
`null` stands for absence only where a member is optional.
-/

namespace ClusterKeeper

/-- Reading and writing of a type as JSON. -/
class Wire (α : Type) where
  /-- The value of a JSON value that has the type's shape. -/
  read : Json → Option α
  /-- The JSON value of a value. -/
  write : α → Json

namespace Wire

variable {α : Type}

instance : Wire Json := ⟨some, id⟩

instance : Wire String where
  read
    | .str s => some s
    | _ => none
  write := .str

instance : Wire Bool where
  read
    | .bool b => some b
    | _ => none
  write := .bool

instance : Wire Int32 where
  read
    | .int i =>
      if -0x80000000 ≤ i ∧ i < 0x80000000 then some (Int32.ofInt i) else none
    | _ => none
  write x := .int x.toInt

instance : Wire Int64 where
  read
    | .int i =>
      if -0x8000000000000000 ≤ i ∧ i < 0x8000000000000000 then some (Int64.ofInt i) else none
    | _ => none
  write x := .int x.toInt

instance [Wire α] : Wire (List α) where
  read
    | .arr items => items.mapM read
    | _ => none
  write xs := .arr (xs.map write)

instance [Wire α] : Wire (SortedMap α) where
  read
    | .obj members => do
      return .ofList (← members.mapM fun m => do return (m.1, ← read m.2))
    | _ => none
  write m := .obj (m.entries.map fun e => (e.1, write e.2))

/-- An optional value is `null` when absent. -/
def nullable [Wire α] : Option α → Json
  | some a => write a
  | none => .null

end Wire

/-- The members of a record that is being read. -/
abbrev Members := List (String × Json)

namespace Json

/-- The members of an object record. -/
def members? : Json → Option Members
  | .obj ms => some ms
  | _ => none

/-- The members of a positional record whose declared order is given. -/
def record? (names : List String) : Json → Option Members
  | .obj ms => some ms
  | .arr vs => if vs.length ≤ names.length then some (names.zip vs) else none
  | _ => none

end Json

namespace Members

variable {α : Type} [Wire α]

/-- A member that has to be there. -/
def required (ms : Members) (k : String) : Option α := (Entries.get? ms k).bind Wire.read

/-- A member with a default for its absence; `null` is not absence. -/
def defaulted (ms : Members) (k : String) (default : α) : Option α :=
  match Entries.get? ms k with
  | none => some default
  | some j => Wire.read j

/-- A member that may be absent or `null`. -/
def optional (ms : Members) (k : String) : Option (Option α) :=
  match Entries.get? ms k with
  | none => some none
  | some .null => some none
  | some j => (Wire.read j).map some

/-- A member with a default for its absence, where `null` is absence. -/
def lenient (ms : Members) (k : String) (default : α) : Option α :=
  (ms.optional k).map fun v => v.getD default

end Members

/-- A member of a record that is being written: its key, and its value when it is written. -/
structure Member where
  key : String
  value : Option Json

namespace Member

variable {α : Type} [Wire α]

/-- A member that is always written. -/
def always (k : String) (a : α) : Member := ⟨k, some (Wire.write a)⟩

/-- A member that is written when it is there. -/
def ifSome (k : String) (a : Option α) : Member := ⟨k, a.map Wire.write⟩

/-- A member that is `null` when it is not there. -/
def nullable (k : String) (a : Option α) : Member := ⟨k, some (Wire.nullable a)⟩

/-- A member that is left out when it has its default. -/
def unlessDefault [DecidableEq α] (default : α) (k : String) (a : α) : Member :=
  ⟨k, if a = default then none else some (Wire.write a)⟩

end Member

/-- The object of the members that are written. -/
def Json.present (members : List Member) : Json :=
  .object (members.filterMap fun m => m.value.map (m.key, ·))

end ClusterKeeper
