import ClusterKeeper.Yaml.CoreSchema
import ClusterKeeper.Yaml.Node

/-!
The values of YAML documents. A document is read either as JSON, where the key of a mapping is the text
of its scalar, a later key wins over an earlier one and an application's own tag is an error, or as a
`Datum`, where keys are values too, a key that is repeated is an error and tags are kept.

Either way a value stands inside 128 collections at most. An alias is read like its anchor's node, and
all aliases together may be followed a hundred times for every part of the document, so that a small
document does not describe a huge value.
-/

namespace ClusterKeeper.Yaml

/-- A value of a document, with keys and tags as they are. -/
inductive Datum where
  | scalar (v : ScalarValue)
  | sequence (items : List Datum)
  | mapping (entries : List (Datum × Datum))
  | tagged (name : String) (d : Datum)

namespace Datum

mutual

/-- Equality of values. -/
def same : Datum → Datum → Bool
  | .scalar a, .scalar b => a == b
  | .sequence a, .sequence b => sameItems a b
  | .mapping a, .mapping b => sameEntries a b
  | .tagged n a, .tagged m b => n == m && same a b
  | _, _ => false

/-- Equality item by item. -/
def sameItems : List Datum → List Datum → Bool
  | [], [] => true
  | a :: as, b :: bs => same a b && sameItems as bs
  | _, _ => false

/-- Equality entry by entry. -/
def sameEntries : List (Datum × Datum) → List (Datum × Datum) → Bool
  | [], [] => true
  | (k, a) :: as, (l, b) :: bs => same k l && same a b && sameEntries as bs
  | _, _ => false

end

/-- Whether a key occurs twice. -/
def repeatsKey : List (Datum × Datum) → Bool
  | [] => false
  | (k, _) :: es => es.any (fun e => k.same e.1) || repeatsKey es

end Datum

/-- A document: its root, the nodes of its anchors, and how often aliases may be followed. -/
structure Document where
  root : Node
  anchors : List (Nat × Node)
  aliasLimit : Nat

/-- How many collections a value may stand in. -/
def depthLimit : Nat := 128

/-- What reads a value: the count of aliases followed so far is kept. -/
abbrev Loader := StateT Nat Option

namespace Document

/-- The document of a text, if there is one. -/
def ofText? (text : String) : Option (Option Document) :=
  (Node.ofText? text).map fun root => root.map fun root =>
    { root, anchors := root.anchors, aliasLimit := 100 * root.size }

/-- The node itself, or what an alias stands for. -/
def target (doc : Document) : Node → Loader Node
  | .alias n => do
    let followed ← get
    if followed < doc.aliasLimit then
      set (followed + 1)
      StateT.lift (Node.target? doc.anchors n)
    else failure
  | .anchored _ node => pure node
  | node => pure node

/-- The text of a key, which has to be a scalar. -/
def keyText (doc : Document) (node : Node) : Loader String := do
  match ← doc.target node with
  | .scalar _ _ text => return text
  | _ => failure

/-- The JSON value of a scalar. Numbers that are not finite become null, and an integer of more than
64 bits is an error. -/
def scalarJson? : ScalarValue → Option Json
  | .null => some .null
  | .bool b => some (.bool b)
  | .int i => some (.int i)
  | .bigInt _ => none
  | .real (.finite x) => some (.float x)
  | .real _ => some .null
  | .text s => some (.str s)

/-- The JSON value of a scalar under its tag. -/
def jsonOfScalar (tag : Option String) (style : ScalarStyle) (text : String) : Loader Json :=
  if (CoreSchema.ownTag? tag).isSome then failure
  else StateT.lift ((CoreSchema.value? tag style text).bind scalarJson?)

/-- The JSON value of a node inside at most `depth` further collections. -/
def json (doc : Document) : (depth : Nat) → Node → Loader Json
  | 0, node => do
    match ← doc.target node with
    | .scalar tag style text => jsonOfScalar tag style text
    | _ => failure
  | depth + 1, node => do
    match ← doc.target node with
    | .scalar tag style text => jsonOfScalar tag style text
    | .sequence tag items =>
      if (CoreSchema.ownTag? tag).isSome then failure
      else return .arr (← items.mapM (json doc depth))
    | .mapping tag entries =>
      if (CoreSchema.ownTag? tag).isSome then failure
      else return .object (← entries.mapM fun e => do
        return (← doc.keyText e.1, ← json doc depth e.2))
    | _ => failure

/-- The datum of a scalar; an integer of more than 64 bits is an error. -/
def scalarDatum? : ScalarValue → Option Datum
  | .bigInt _ => none
  | v => some (.scalar v)

/-- A datum under its tag, which is kept when it is an application's own. -/
def tagDatum (tag : Option String) (d : Datum) : Datum :=
  match CoreSchema.ownTag? tag with
  | some name => .tagged name d
  | none => d

/-- The datum of a scalar under its tag. -/
def datumOfScalar (tag : Option String) (style : ScalarStyle) (text : String) : Loader Datum := do
  let schemaTag := if (CoreSchema.ownTag? tag).isSome then none else tag
  return tagDatum tag (← StateT.lift ((CoreSchema.value? schemaTag style text).bind scalarDatum?))

/-- The value of a node inside at most `depth` further collections. -/
def datum (doc : Document) : (depth : Nat) → Node → Loader Datum
  | 0, node => do
    match ← doc.target node with
    | .scalar tag style text => datumOfScalar tag style text
    | _ => failure
  | depth + 1, node => do
    match ← doc.target node with
    | .scalar tag style text => datumOfScalar tag style text
    | .sequence tag items => return tagDatum tag (.sequence (← items.mapM (datum doc depth)))
    | .mapping tag entries => do
      let entries ← entries.mapM fun e => do return (← datum doc depth e.1, ← datum doc depth e.2)
      if Datum.repeatsKey entries then failure else return tagDatum tag (.mapping entries)
    | _ => failure

/-- Whether a scalar says that an optional value is absent. -/
def saysAbsent (tag : Option String) (style : ScalarStyle) (text : String) : Option Bool :=
  if style ≠ .plain then some false
  else match tag with
    | some t =>
      if t = CoreSchema.tagStart ++ "null" then
        if CoreSchema.nullWords.contains text then some true else none
      else some false
    | none => some (text == "" || CoreSchema.nullWords.contains text)

/-- The value of a node that may say that there is none. -/
def optionalDatum (doc : Document) (depth : Nat) (node : Node) : Loader (Option Datum) := do
  let target ← doc.target node
  match target with
  | .scalar tag style text =>
    if ← StateT.lift (saysAbsent tag style text) then return none
    else return some (← doc.datum depth target)
  | _ => return some (← doc.datum depth target)

/-- A boolean, which has to be plain, or literal under its tag. -/
def bool (doc : Document) (node : Node) : Loader Bool := do
  match ← doc.target node with
  | .scalar tag style text =>
    let allowed := style = .plain ∨ (style = .literal ∧ tag = some (CoreSchema.tagStart ++ "bool"))
    if allowed then StateT.lift (CoreSchema.bool? text) else failure
  | _ => failure

end Document

/-- The JSON value of a text; without a document it is null. -/
def toJson? (text : String) : Option Json :=
  match Document.ofText? text with
  | none => none
  | some none => some .null
  | some (some doc) => ((doc.json depthLimit doc.root).run 0).map (·.1)

end ClusterKeeper.Yaml
