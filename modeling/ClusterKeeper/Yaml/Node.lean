import ClusterKeeper.Yaml.Token

/-!
The tree that a YAML document describes, and how it is made of tokens. Aliases stay in the tree and
refer to their anchors by number; `Node.anchors` lists what the numbers stand for.

A stream holds one document at most. It may begin without a mark, if it has no directives; after a
document only a mark may follow.
-/

namespace ClusterKeeper.Yaml

/-- A node of a document. -/
inductive Node where
  | scalar (tag : Option String) (style : ScalarStyle) (text : String)
  | sequence (tag : Option String) (items : List Node)
  | mapping (tag : Option String) (entries : List (Node × Node))
  | anchored (number : Nat) (node : Node)
  | alias (number : Nat)

namespace Node

/-- A scalar without a text. -/
def blank : Node := .scalar none .plain ""

instance : Inhabited Node := ⟨blank⟩

mutual

/-- The anchored nodes with their numbers, in the order of the text. -/
def anchors : Node → List (Nat × Node)
  | .anchored n node => (n, node) :: node.anchors
  | .sequence _ items => anchorsOfItems items
  | .mapping _ entries => anchorsOfEntries entries
  | .scalar .. | .alias _ => []

/-- The anchored nodes in a list of nodes. -/
def anchorsOfItems : List Node → List (Nat × Node)
  | [] => []
  | n :: ns => n.anchors ++ anchorsOfItems ns

/-- The anchored nodes in a list of entries. -/
def anchorsOfEntries : List (Node × Node) → List (Nat × Node)
  | [] => []
  | (k, v) :: es => k.anchors ++ (v.anchors ++ anchorsOfEntries es)

end

mutual

/-- The count of scalars and aliases, and of the starts and ends of collections. -/
def size : Node → Nat
  | .anchored _ node => node.size
  | .sequence _ items => 2 + sizeOfItems items
  | .mapping _ entries => 2 + sizeOfEntries entries
  | .scalar .. | .alias _ => 1

/-- The size of a list of nodes. -/
def sizeOfItems : List Node → Nat
  | [] => 0
  | n :: ns => n.size + sizeOfItems ns

/-- The size of a list of entries. -/
def sizeOfEntries : List (Node × Node) → Nat
  | [] => 0
  | (k, v) :: es => k.size + v.size + sizeOfEntries es

end

/-- The node that a number stands for; of several the last. -/
def target? (anchors : List (Nat × Node)) (number : Nat) : Option Node :=
  List.lookup number anchors.reverse

end Node

/-! ### Making nodes of tokens -/

/-- What has been declared in a document. -/
structure Declared where
  /-- The beginnings that tag handles stand for. -/
  tags : List (String × String)
  /-- The numbers of anchors, by name. -/
  names : List (String × Nat)

namespace Declared

/-- The handles that need no declaration. -/
def standardTags : List (String × String) := [("!", "!"), ("!!", "tag:yaml.org,2002:")]

/-- Declares an anchor; its number is the count of the names so far. -/
def anchor (name : String) (d : Declared) : Nat × Declared :=
  let number := d.names.length
  (number, { d with names := (name, number) :: d.names.filter (·.1 ≠ name) })

/-- The tag of a handle and a suffix. The tag of a single exclamation mark is as good as none. -/
def tag? (handle suffix : String) (d : Declared) : Option (Option String) :=
  if handle = "" then some (if suffix = "!" then none else some suffix)
  else (List.lookup handle d.tags).map fun start => some (start ++ suffix)

end Declared

/-- A reader of tokens. -/
abbrev TokenParser (α : Type) := List Token → Declared → Option (α × List Token × Declared)

/-- What stands before a node: whether there is any, the number of an anchor, and a tag. -/
structure Properties where
  given : Bool
  number : Option Nat
  tag : Option String

namespace Properties

/-- No property. -/
def none : Properties := ⟨false, .none, .none⟩

/-- Gives a node its anchor. -/
def apply (p : Properties) (node : Node) : Node :=
  match p.number with
  | some n => .anchored n node
  | .none => node

/-- Reads an anchor and a tag in either order. -/
def parse : TokenParser Properties
  | .anchor name :: .tag handle suffix :: ts, d => do
    let (n, d) := d.anchor name
    return (⟨true, n, ← d.tag? handle suffix⟩, ts, d)
  | .anchor name :: ts, d =>
    let (n, d) := d.anchor name
    some (⟨true, n, .none⟩, ts, d)
  | .tag handle suffix :: .anchor name :: ts, d => do
    let (n, d) := d.anchor name
    return (⟨true, n, ← d.tag? handle suffix⟩, ts, d)
  | .tag handle suffix :: ts, d => do return (⟨true, .none, ← d.tag? handle suffix⟩, ts, d)
  | ts, d => some (none, ts, d)

end Properties

/-- Where a node stands. -/
structure Place where
  /-- Blocks may start here. -/
  block : Bool
  /-- A block sequence may stand here without further indentation. -/
  indentless : Bool

/-- Tokens before which a key or a value of a block mapping is left out. -/
def endsBlockEntry : Token → Bool
  | .key | .value | .blockEnd => true
  | _ => false

/-- Whether the next token satisfies a test. -/
def upcoming (p : Token → Bool) : List Token → Bool
  | [] => false
  | t :: _ => p t

namespace Node

mutual

/-- Reads a node. -/
def parse : (fuel : Nat) → Place → TokenParser Node
  | 0, _, _, _ => none
  | _ + 1, _, .alias name :: ts, d =>
    (List.lookup name d.names).map fun n => (.alias n, ts, d)
  | fuel + 1, place, ts, d => do
    let (p, ts, d) ← Properties.parse ts d
    let leaf := if p.given then some (p.apply (.scalar p.tag .plain ""), ts, d) else none
    let sequence (r : List Node × List Token × Declared) := (p.apply (.sequence p.tag r.1), r.2)
    let mapping (r : List (Node × Node) × List Token × Declared) :=
      (p.apply (.mapping p.tag r.1), r.2)
    match ts with
    | .scalar style text :: ts => some (p.apply (.scalar p.tag style text), ts, d)
    | .flowSequenceStart :: ts => (parseFlowItems fuel true ts d).map sequence
    | .flowMappingStart :: ts => (parseFlowEntries fuel true ts d).map mapping
    | .blockSequenceStart :: ts =>
      if place.block then (parseBlockItems fuel ts d).map sequence else leaf
    | .blockMappingStart :: ts =>
      if place.block then (parseBlockEntries fuel ts d).map mapping else leaf
    | .blockEntry :: _ =>
      if place.indentless then (parseIndentlessItems fuel ts d).map sequence else leaf
    | _ => leaf

/-- Reads the items of a block sequence up to its end. -/
def parseBlockItems : (fuel : Nat) → TokenParser (List Node)
  | 0, _, _ => none
  | fuel + 1, .blockEntry :: ts, d => do
    let (item, ts, d) ←
      if upcoming (fun t => t == .blockEntry || t == .blockEnd) ts then some (blank, ts, d)
      else parse fuel ⟨true, false⟩ ts d
    let (items, ts, d) ← parseBlockItems fuel ts d
    return (item :: items, ts, d)
  | _ + 1, .blockEnd :: ts, d => some ([], ts, d)
  | _ + 1, _, _ => none

/-- Reads the items of a block sequence that is not indented further. -/
def parseIndentlessItems : (fuel : Nat) → TokenParser (List Node)
  | 0, _, _ => none
  | fuel + 1, .blockEntry :: ts, d => do
    let (item, ts, d) ←
      if upcoming (fun t => t == .blockEntry || endsBlockEntry t) ts then some (blank, ts, d)
      else parse fuel ⟨true, false⟩ ts d
    let (items, ts, d) ← parseIndentlessItems fuel ts d
    return (item :: items, ts, d)
  | _ + 1, ts, d => some ([], ts, d)

/-- Reads a key or a value of a block mapping, which may be left out. -/
def parseBlockPart : (fuel : Nat) → TokenParser Node
  | 0, _, _ => none
  | fuel + 1, ts, d =>
    if upcoming endsBlockEntry ts then some (blank, ts, d) else parse fuel ⟨true, true⟩ ts d

/-- Reads the value of a block mapping's entry. -/
def parseBlockValue : (fuel : Nat) → TokenParser Node
  | 0, _, _ => none
  | fuel + 1, .value :: ts, d => parseBlockPart fuel ts d
  | _ + 1, ts, d => some (blank, ts, d)

/-- Reads the entries of a block mapping up to its end. -/
def parseBlockEntries : (fuel : Nat) → TokenParser (List (Node × Node))
  | 0, _, _ => none
  | fuel + 1, .key :: ts, d => do
    let (k, ts, d) ← parseBlockPart fuel ts d
    let (v, ts, d) ← parseBlockValue fuel ts d
    let (entries, ts, d) ← parseBlockEntries fuel ts d
    return ((k, v) :: entries, ts, d)
  | _ + 1, .blockEnd :: ts, d => some ([], ts, d)
  | _ + 1, _, _ => none

/-- Reads the items of a flow sequence up to its end. An item may be a single entry of a mapping. -/
def parseFlowItems : (fuel : Nat) → (first : Bool) → TokenParser (List Node)
  | 0, _, _, _ => none
  | _ + 1, _, .flowSequenceEnd :: ts, d => some ([], ts, d)
  | fuel + 1, first, ts, d => do
    let ts ← if first then some ts
      else match ts with
        | .flowEntry :: ts => some ts
        | _ => none
    match ts with
    | .flowSequenceEnd :: ts => some ([], ts, d)
    | .key :: ts => do
      let (k, ts, d) ←
        if upcoming (fun t => t == .value || t == .flowEntry || t == .flowSequenceEnd) ts then
          some (blank, ts.drop 1, d)
        else parse fuel ⟨false, false⟩ ts d
      let (v, ts, d) ← parseFlowValue fuel .flowSequenceEnd ts d
      let (items, ts, d) ← parseFlowItems fuel false ts d
      return (.mapping none [(k, v)] :: items, ts, d)
    | ts => do
      let (item, ts, d) ← parse fuel ⟨false, false⟩ ts d
      let (items, ts, d) ← parseFlowItems fuel false ts d
      return (item :: items, ts, d)

/-- Reads the value of an entry of a flow collection that ends with a given token. -/
def parseFlowValue : (fuel : Nat) → Token → TokenParser Node
  | 0, _, _, _ => none
  | fuel + 1, close, .value :: ts, d =>
    if upcoming (fun t => t == .flowEntry || t == close) ts then some (blank, ts, d)
    else parse fuel ⟨false, false⟩ ts d
  | _ + 1, _, ts, d => some (blank, ts, d)

/-- Reads the entries of a flow mapping up to its end. -/
def parseFlowEntries : (fuel : Nat) → (first : Bool) → TokenParser (List (Node × Node))
  | 0, _, _, _ => none
  | _ + 1, _, .flowMappingEnd :: ts, d => some ([], ts, d)
  | fuel + 1, first, ts, d => do
    let ts ← if first then some ts
      else match ts with
        | .flowEntry :: ts => some ts
        | _ => none
    match ts with
    | .flowMappingEnd :: ts => some ([], ts, d)
    | .key :: ts => do
      let (k, ts, d) ←
        if upcoming (fun t => t == .value || t == .flowEntry || t == .flowMappingEnd) ts then
          some (blank, ts, d)
        else parse fuel ⟨false, false⟩ ts d
      let (v, ts, d) ← parseFlowValue fuel .flowMappingEnd ts d
      let (entries, ts, d) ← parseFlowEntries fuel false ts d
      return ((k, v) :: entries, ts, d)
    | ts => do
      let (k, ts, d) ← parse fuel ⟨false, false⟩ ts d
      let (entries, ts, d) ← parseFlowEntries fuel false ts d
      return ((k, blank) :: entries, ts, d)

end

end Node

/-! ### Documents -/

/-- Whether a version may be declared. -/
def isKnownVersion (major minor : Nat) : Bool := major == 1 && (minor == 1 || minor == 2)

/-- Reads directives. The version may be declared once and a tag's handle once. -/
def parseDirectives : List Token → (version : Bool) → List (String × String) →
    Option (List (String × String) × List Token)
  | .versionDirective major minor :: ts, version, tags =>
    if version || !isKnownVersion major minor then none else parseDirectives ts true tags
  | .tagDirective handle start :: ts, version, tags =>
    if tags.any (·.1 = handle) then none else parseDirectives ts version (tags ++ [(handle, start)])
  | ts, _, tags => some (tags ++ Declared.standardTags, ts)

/-- Tokens that end a document or precede one. -/
def isBetweenDocuments : Token → Bool
  | .versionDirective .. | .tagDirective .. | .documentStart | .documentEnd => true
  | _ => false

/-- As many calls as the tokens can cause inside each other. -/
def parseFuel (ts : List Token) : Nat := 4 * ts.length + 4

/-- Reads the content of a document that began with a mark; it may be missing. -/
def parseContent (ts : List Token) (tags : List (String × String)) : Option (Node × List Token) :=
  if ts = [] ∨ upcoming isBetweenDocuments ts then some (.blank, ts)
  else (Node.parse (parseFuel ts) ⟨true, false⟩ ts ⟨tags, []⟩).map fun r => (r.1, r.2.1)

/-- Reads the document of a stream, if there is one. -/
def parseStream (ts : List Token) : Option (Option Node) :=
  match ts with
  | [] => some none
  | t :: _ =>
    let first : Option (Node × List Token) :=
      match t with
      | .versionDirective .. | .tagDirective .. | .documentStart => do
        let (tags, ts) ← parseDirectives ts false []
        match ts with
        | .documentStart :: ts => parseContent ts tags
        | _ => none
      | _ => (Node.parse (parseFuel ts) ⟨true, false⟩ ts ⟨Declared.standardTags, []⟩).map
          fun r => (r.1, r.2.1)
    match first with
    | some (node, rest) =>
      if rest.all (· == .documentEnd) then some (some node) else none
    | none => none

/-- The root of the document in a text, if there is a document. -/
def Node.ofText? (text : String) : Option (Option Node) :=
  (Token.ofText? text.toList).bind parseStream

end ClusterKeeper.Yaml
