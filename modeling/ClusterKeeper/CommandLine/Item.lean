/-!
The items of a command line. An option takes a value, which is attached to it after an equals sign or is
the next word; a word that starts with a hyphen, other than the hyphen alone, is never the value of the
option before it. A flag takes no value. After two hyphens there are no options any more.
-/

namespace ClusterKeeper.CommandLine

/-- The options that take a value. -/
inductive ValueOption where
  /-- The namespace to watch. -/
  | ns
  /-- The container of the instances. -/
  | containerName
  /-- How many seconds an administration call may take. -/
  | execTimeout
  /-- The format of the log. -/
  | logFormat
  /-- The filter of the log. -/
  | logLevel
  deriving DecidableEq

namespace ValueOption

/-- All options. -/
def all : List ValueOption := [ns, containerName, execTimeout, logFormat, logLevel]

/-- The name of an option. -/
def name : ValueOption → String
  | ns => "namespace"
  | containerName => "container-name"
  | execTimeout => "exec-timeout-secs"
  | logFormat => "log-format"
  | logLevel => "log-level"

end ValueOption

/-- The flags. -/
inductive Flag where
  /-- Only prints the definitions of the custom resources. -/
  | generateCrds
  | help
  | version
  deriving DecidableEq

namespace Flag

/-- All flags. -/
def all : List Flag := [generateCrds, help, version]

/-- The name of a flag. -/
def name : Flag → String
  | generateCrds => "generate-crds"
  | help => "help"
  | version => "version"

/-- The flag of a letter. -/
def ofLetter? : Char → Option Flag
  | 'h' => some help
  | 'V' => some version
  | _ => none

end Flag

/-- An item of a command line. -/
inductive Item where
  | flag (f : Flag)
  /-- An option with a value after an equals sign. -/
  | attached (o : ValueOption) (value : String)
  /-- An option whose value is the next word, if that can be a value. -/
  | separate (o : ValueOption) (value : Option String)
  /-- A flag with a value, which it has no use for. -/
  | unneeded (f : Flag) (value : String)
  /-- A word that belongs to nothing. -/
  | stray (word : String)
  deriving DecidableEq

/-- What a word is by itself. -/
inductive Word where
  | item (i : Item)
  /-- An option that waits for its value. -/
  | waiting (o : ValueOption)
  /-- The end of the options. -/
  | endOfOptions
  deriving DecidableEq

namespace Word

/-- A word that starts with two hyphens, by its name and the value after the equals sign. -/
def ofName (word name : String) (value : Option String) : Word :=
  match ValueOption.all.find? (·.name = name), Flag.all.find? (·.name = name), value with
  | some o, _, some v => .item (.attached o v)
  | some o, _, none => .waiting o
  | none, some f, some v => .item (.unneeded f v)
  | none, some f, none => .item (.flag f)
  | none, none, _ => .item (.stray word)

/-- What a word is. -/
def ofText (word : String) : Word :=
  match word.toList with
  | ['-', '-'] => .endOfOptions
  | '-' :: '-' :: cs =>
    let name := String.ofList (cs.takeWhile (· ≠ '='))
    match cs.dropWhile (· ≠ '=') with
    | [] => ofName word name none
    | _ :: value => ofName word name (some (String.ofList value))
  | '-' :: c :: _ => .item (((Flag.ofLetter? c).map Item.flag).getD (.stray word))
  | _ => .item (.stray word)

/-- Whether a word can be the value of the option before it. -/
def isValue (word : String) : Bool :=
  match word.toList with
  | '-' :: _ :: _ => false
  | _ => true

end Word

/-- The items of some words. -/
def Item.ofWords : List String → List Item
  | [] => []
  | w :: ws =>
    match Word.ofText w with
    | .item i => i :: ofWords ws
    | .endOfOptions => ws.map Item.stray
    | .waiting o =>
      match ws with
      | [] => [.separate o none]
      | v :: vs => if Word.isValue v then .separate o (some v) :: ofWords vs
        else .separate o none :: ofWords (v :: vs)

end ClusterKeeper.CommandLine
