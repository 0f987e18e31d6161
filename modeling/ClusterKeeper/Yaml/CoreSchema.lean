import ClusterKeeper.Decimal.Shortest
import ClusterKeeper.Json.Reader
import ClusterKeeper.Yaml.Token

/-!
What the text of a plain scalar means in the core schema: null, a boolean, an integer with an optional
sign in one of four bases, a decimal number, an infinity, not a number, or a text. A decimal that starts
with a zero before more digits is a text.
-/

namespace ClusterKeeper.Yaml

/-- A number that need not be finite. -/
inductive Real where
  | finite (x : Double)
  | infinite (negative : Bool)
  | notANumber
  deriving DecidableEq

/-- The value of a scalar. -/
inductive ScalarValue where
  | null
  | bool (b : Bool)
  /-- An integer that fits 64 bits, signed or unsigned. -/
  | int (i : Int)
  /-- An integer that fits 128 bits but not 64. -/
  | bigInt (i : Int)
  | real (x : Real)
  | text (s : String)
  deriving DecidableEq

namespace CoreSchema

/-- The spellings of null, but for the empty one. -/
def nullWords : List String := ["null", "Null", "NULL", "~"]

/-- The spellings of the booleans. -/
def bool? (s : String) : Option Bool :=
  if ["true", "True", "TRUE"].contains s then some true
  else if ["false", "False", "FALSE"].contains s then some false
  else none

/-- The number that digits of a base write, at least one. -/
def digits? (base : Nat) (cs : List Char) : Option Nat :=
  if cs = [] then none
  else cs.foldlM (fun n c => do
    let d ← Json.hexValue? c
    if d < base then some (n * base + d) else none) 0

/-- The base that two characters announce. -/
def baseOf? : List Char → Option (Nat × List Char)
  | '0' :: 'x' :: rest => some (16, rest)
  | '0' :: 'o' :: rest => some (8, rest)
  | '0' :: 'b' :: rest => some (2, rest)
  | _ => none

/-- A sign, and the text after it. -/
def signOf : List Char → Option Char × List Char
  | '+' :: rest => (some '+', rest)
  | '-' :: rest => (some '-', rest)
  | cs => (none, cs)

/-- Digits only, more than one, the first a zero. -/
def hasLeadingZero (cs : List Char) : Bool :=
  match (signOf cs).2 with
  | '0' :: d :: ds => (d :: ds).all Char.isDigit
  | _ => false

/-- The integer that a text writes. -/
def integer? (cs : List Char) : Option Int :=
  let (sign, magnitude) := signOf cs
  let n := match baseOf? magnitude with
    | some (base, ds) => digits? base ds
    | none => if hasLeadingZero cs then none else digits? 10 magnitude
  n.map fun n => if sign = some '-' then -Int.ofNat n else Int.ofNat n

/-- The decimal number that a text without a sign writes: digits with a point or without, at least one
digit, and a power of ten or none. -/
def decimal? (negative : Bool) (cs : List Char) : Option Double :=
  let whole := cs.takeWhile Char.isDigit
  let rest := cs.drop whole.length
  let (fraction, rest) := match rest with
    | '.' :: rest => (rest.takeWhile Char.isDigit, rest.dropWhile Char.isDigit)
    | rest => ([], rest)
  let power : Option Int := match rest with
    | [] => some 0
    | e :: rest =>
      if e = 'e' ∨ e = 'E' then
        let (sign, ds) := signOf rest
        (digits? 10 ds).map fun n => if sign = some '-' then -Int.ofNat n else Int.ofNat n
      else none
  match power, digits? 10 (whole ++ fraction) with
  | some p, some n =>
    let place := p - Int.ofNat fraction.length
    if place < -100000 then some (.zero negative)
    else if 100000 < place ∧ n ≠ 0 then none
    else Double.ofDecimal? negative n place
  | _, _ => none

/-- The real number that a text writes. -/
def real? (s : String) : Option Real :=
  if [".inf", ".Inf", ".INF", "+.inf", "+.Inf", "+.INF"].contains s then some (.infinite false)
  else if ["-.inf", "-.Inf", "-.INF"].contains s then some (.infinite true)
  else if [".nan", ".NaN", ".NAN"].contains s then some .notANumber
  else
    let (sign, magnitude) := signOf s.toList
    (decimal? (sign = some '-') magnitude).map .finite

/-- An integer by the width it fits. -/
def ofInteger? (i : Int) : Option ScalarValue :=
  if Json.InRange i then some (.int i)
  else if -0x80000000000000000000000000000000 ≤ i ∧ i < 0x100000000000000000000000000000000 then
    some (.bigInt i)
  else none

/-- The value of a plain scalar. -/
def resolve (s : String) : ScalarValue :=
  if s = "" ∨ nullWords.contains s then .null
  else match bool? s with
    | some b => .bool b
    | none =>
      match (integer? s.toList).bind ofInteger? with
      | some v => v
      | none =>
        if hasLeadingZero s.toList then .text s
        else match real? s with
          | some x => .real x
          | none => .text s

/-- The tags of the schema. -/
def tagStart : String := "tag:yaml.org,2002:"

/-- The name of an application's own tag: what follows its exclamation mark. -/
def ownTag? (tag : Option String) : Option String :=
  match tag.map String.toList with
  | some ('!' :: c :: rest) => some (String.ofList (c :: rest))
  | _ => none

/-- The value of a scalar under a tag that is not an application's own. -/
def value? (tag : Option String) (style : ScalarStyle) (s : String) : Option ScalarValue :=
  let plain := if style = .plain then resolve s else .text s
  match tag with
  | none => some plain
  | some t =>
    if t = tagStart ++ "bool" then (bool? s).map .bool
    else if t = tagStart ++ "int" then (integer? s.toList).bind ofInteger?
    else if t = tagStart ++ "float" then (real? s).map .real
    else if t = tagStart ++ "null" then if nullWords.contains s then some .null else none
    else if t.startsWith "!" then some plain
    else some (.text s)

end CoreSchema

end ClusterKeeper.Yaml
