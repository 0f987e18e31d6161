import ClusterKeeper.CommandLine.Item
import ClusterKeeper.Logging

/-!
What a command line gives, and what can be wrong with it. Items are looked at from left to right. The
value of an option that is a word of its own is looked at only when the next item is known: when that one
is a stray word or an unneeded value, it is the error.
-/

namespace ClusterKeeper.CommandLine

/-- What keeps a command line from being used. -/
inductive UsageError where
  /-- A word belongs to nothing. -/
  | unknown (word : String)
  /-- An option has a value that it cannot have. -/
  | badValue (o : ValueOption) (value : String)
  /-- An option has no value. -/
  | noValue (o : ValueOption)
  /-- A flag has a value. -/
  | unneededValue (f : Flag)
  /-- An option or flag is given twice. -/
  | repeated (name : String)
  /-- Help is asked for. -/
  | helpWanted
  /-- The version is asked for. -/
  | versionWanted
  deriving DecidableEq

/-- What is given. -/
structure Given where
  generateCrds : Bool
  ns : Option String
  containerName : Option String
  execSeconds : Option Nat
  logFormat : Option LogFormat
  logLevel : Option String
  deriving DecidableEq

/-- The number that a text writes in decimal digits, after a plus sign or none, of 64 bits. -/
def seconds? (s : String) : Option Nat :=
  let digits : List Char := match s.toList with
    | '+' :: cs => cs
    | cs => cs
  let n := digits.foldl (fun n c => n * 10 + (c.toNat - '0'.toNat)) 0
  if digits ≠ [] ∧ digits.all Char.isDigit ∧ n < 0x10000000000000000 then some n else none

/-- The seconds that an option's value writes. -/
def readSeconds (value : String) : Except UsageError Nat :=
  match seconds? value with
  | some n => .ok n
  | none => .error (.badValue .execTimeout value)

namespace Given

/-- Nothing is given. -/
def nothing : Given := ⟨false, none, none, none, none, none⟩

/-- Whether an option is given. -/
def has (g : Given) : ValueOption → Bool
  | .ns => g.ns.isSome
  | .containerName => g.containerName.isSome
  | .execTimeout => g.execSeconds.isSome
  | .logFormat => g.logFormat.isSome
  | .logLevel => g.logLevel.isSome

/-- An option is given with a value, for the first time. -/
def take (g : Given) (o : ValueOption) (value : String) : Except UsageError Given :=
  if g.has o then .error (.repeated o.name)
  else match o with
    | .ns => .ok { g with ns := some value }
    | .containerName => .ok { g with containerName := some value }
    | .execTimeout => (readSeconds value).map fun n => { g with execSeconds := some n }
    | .logFormat => .ok { g with logFormat := some (.ofText value) }
    | .logLevel => .ok { g with logLevel := some value }

/-- The error of an item that no other item could mend. -/
def fatal? : Item → Option UsageError
  | .stray word => some (.unknown word)
  | .unneeded f _ => some (.unneededValue f)
  | .flag _ | .attached .. | .separate .. => none

/-- An item is given. -/
def add (g : Given) : Item → Except UsageError Given
  | .stray word => .error (.unknown word)
  | .unneeded f _ => .error (.unneededValue f)
  | .flag .help => .error .helpWanted
  | .flag .version => .error .versionWanted
  | .flag .generateCrds =>
    if g.generateCrds then .error (.repeated Flag.generateCrds.name)
    else .ok { g with generateCrds := true }
  | .attached o value => g.take o value
  | .separate o (some value) => g.take o value
  | .separate o none => .error (.noValue o)

/-- What some items give beside what is given already. -/
def addAll (g : Given) : List Item → Except UsageError Given
  | [] => .ok g
  | [i] => g.add i
  | .separate o value :: i :: is =>
    match fatal? i with
    | some e => .error e
    | none => (g.add (.separate o value)).bind fun g => g.addAll (i :: is)
  | i :: is => (g.add i).bind fun g => g.addAll is

/-- What the words of a command line give. -/
def ofWords (words : List String) : Except UsageError Given := nothing.addAll (Item.ofWords words)

end Given

end ClusterKeeper.CommandLine
