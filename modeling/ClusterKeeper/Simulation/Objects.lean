import ClusterKeeper.Store

/-!
Objects in memory. Storing an object gives it a new version, and an identifier if it has none; a
replacement with another version than the stored one is refused.
-/

namespace ClusterKeeper.Simulation

/-- The objects of a kind, by namespace and name. -/
abbrev Shelf (α : Type) := SortedMap (SortedMap α)

namespace Shelf

variable {α : Type}

/-- The object of a name in a namespace. -/
def find? (s : Shelf α) (ns name : String) : Option α := (s.get? ns).bind (·.get? name)

/-- The objects in a namespace, by name. -/
def inNamespace (s : Shelf α) (ns : String) : SortedMap α := (s.get? ns).getD .empty

/-- The shelf with an object in its place. -/
def put (s : Shelf α) (ns name : String) (o : α) : Shelf α :=
  s.insert ns ((s.inNamespace ns).insert name o)

/-- The shelf without an object. -/
def drop (s : Shelf α) (ns name : String) : Shelf α := s.insert ns ((s.inNamespace ns).erase name)

/-- All objects with their namespaces and names, in order. -/
def all (s : Shelf α) : List (String × String × α) :=
  s.entries.flatMap fun e => e.2.entries.map fun f => (e.1, f.1, f.2)

end Shelf

/-- Objects of all kinds, with a counter of the versions that were given. -/
structure Objects where
  shelf : (k : Kind) → Shelf k.Object
  version : Nat

namespace Objects

/-- No objects. -/
def blank : Objects := ⟨fun _ => .empty, 0⟩

instance : Inhabited Objects := ⟨blank⟩

/-- The objects with another shelf for a kind. -/
def withShelf (os : Objects) (k : Kind) (s : Shelf k.Object) : Objects :=
  { os with shelf := fun k' => if h : k = k' then h ▸ s else os.shelf k' }

/-- The object of a name in a namespace. -/
def find? (os : Objects) (k : Kind) (ns name : String) : Option k.Object := (os.shelf k).find? ns name

/-- The metadata of an object as it is stored. -/
def stamped (version : Nat) (m : ObjectMeta) : ObjectMeta :=
  { m with
    resourceVersion := some (Labels.integerText version)
    uid := some (m.uid.getD ("uid-" ++ m.nameText)) }

/-- Stores an object, which gives it as it is stored. -/
def put (os : Objects) (k : Kind) (o : k.Object) : k.Object × Objects :=
  let m := stamped (os.version + 1) (KubeObject.metadata o)
  let o := KubeObject.setMetadata m o
  (o, { os.withShelf k ((os.shelf k).put m.nsText m.nameText o) with version := os.version + 1 })

/-- Removes an object. -/
def drop (os : Objects) (k : Kind) (ns name : String) : Objects :=
  os.withShelf k ((os.shelf k).drop ns name)

/-- Stores an object again as it is, which gives it a new version. -/
def touch (os : Objects) (k : Kind) (ns name : String) : Objects :=
  match os.find? k ns name with
  | some o => (os.put k o).2
  | none => os

/-- The object with the status of another one. -/
def withStatusOf : (k : Kind) → (stored given : k.Object) → k.Object
  | .cluster, stored, given => { stored with status := given.status }
  | .role, stored, given => { stored with status := given.status }
  | .cartridgeConfig, stored, given => { stored with status := given.status }
  | .pod, stored, given => { stored with status := given.status }
  | .statefulSet, stored, _ | .service, stored, _ | .secret, stored, _ => stored

/-- Stores something in place of an object, unless that is missing or has another version. -/
def update (os : Objects) (k : Kind) (given : k.Object) (merge : (stored : k.Object) → k.Object) :
    Except OperatorError k.Object × Objects :=
  let m := KubeObject.metadata given
  match os.find? k m.nsText m.nameText with
  | none => (.error (.notFound k.name m.nsText m.nameText), os)
  | some stored =>
    if m.resourceVersion ≠ none ∧
        m.resourceVersion ≠ (KubeObject.metadata stored).resourceVersion then
      (.error (.conflict k.name m.nameText), os)
    else
      let (o, os) := os.put k (merge stored)
      (.ok o, os)

/-- The answer to a request, with the objects after it. -/
def answer (os : Objects) : (q : StoreRequest) → Except OperatorError q.Result × Objects
  | .get k ns name => (.ok (os.find? k ns name), os)
  | .list k ns selector =>
    (.ok (((os.shelf k).inNamespace ns).values.filter fun o =>
      Labels.Matches (KubeObject.metadata o).labels selector), os)
  | .create k o =>
    let m := KubeObject.metadata o
    if (os.find? k m.nsText m.nameText).isSome then (.error (.conflict k.name m.nameText), os)
    else
      let (o, os) := os.put k o
      (.ok o, os)
  | .replace k o => os.update k o fun _ => o
  | .replaceStatus k o => os.update k o fun stored => withStatusOf k stored o

end Objects

end ClusterKeeper.Simulation
