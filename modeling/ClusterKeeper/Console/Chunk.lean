import ClusterKeeper.Json.Printer

/-!
The Lua chunk that carries a call to an instance's console. The chunk decodes its arguments from
JSON in a string literal, runs the script with them and returns whether it succeeded, with the result
as base64 of its JSON. The console is a process that reads the chunk from its standard input.

The literal is double quoted. A quotation mark, a backslash and every ASCII control character are
escaped, so that the literal ends where it should and no tab is left in it when the tabs of the whole
chunk are removed.
-/

namespace ClusterKeeper

/-- A process to run in an instance's container, with its input. -/
structure ConsoleCommand where
  argv : List String
  stdin : String
  deriving DecidableEq

namespace Chunk

/-- The shell command whose input goes to the instance's console. -/
def consoleCommand : String :=
  "cat /dev/stdin | tarantoolctl connect `ls $CARTRIDGE_RUN_DIR/*.control` "

/-- Three decimal digits. -/
def threeDigits (n : Nat) : List Char :=
  [Nat.digitChar (n / 100 % 10), Nat.digitChar (n / 10 % 10), Nat.digitChar (n % 10)]

/-- Whether a character is an ASCII control. -/
def isControl (c : Char) : Bool := c.toNat < 0x20 || c.toNat == 0x7f

/-- A character as it stands in a literal. -/
def escapeChar (c : Char) : List Char :=
  if c = '"' then ['\\', '"']
  else if c = '\\' then ['\\', '\\']
  else if c = '\n' then ['\\', 'n']
  else if c = '\r' then ['\\', 'r']
  else if c = '\t' then ['\\', 't']
  else if isControl c then '\\' :: threeDigits c.toNat
  else [c]

/-- A double quoted literal. -/
def literal (cs : List Char) : List Char := '"' :: cs.flatMap escapeChar ++ ['"']

/-- The literal of the arguments: their JSON array, or an empty table when there is none. -/
def argsLiteral (args : List Json) : List Char :=
  if args = [] then ['\'', '{', '}', '\''] else literal (Json.print (.arr args))

/-- The chunk before its arguments. -/
def opening : List Char :=
  ("\nlocal digest = require('digest')\nlocal json = require('json')\n" ++
    "local args = json.decode(").toList

/-- The chunk between its arguments and its script. -/
def middle : List Char := ")\nlocal func = function(...)\n    ".toList

/-- The chunk after its script. -/
def closing : List Char :=
  ("\nend\nlocal ok, result\nok, result = pcall(func, unpack(args))\n" ++
    "return \x7bok=ok,res=digest.base64_encode(json.encode(result)),\x7d\n").toList

/-- The text without its tabs. -/
def withoutTabs (cs : List Char) : List Char := cs.filter (· ≠ '\t')

/-- The chunk of a call. -/
def ofCall (script : String) (args : List Json) : String :=
  String.ofList (withoutTabs (opening ++ argsLiteral args ++ middle ++ script.toList ++ closing))

end Chunk

/-- The command that runs a script with arguments. -/
def ConsoleCommand.ofCall (script : String) (args : List Json) : ConsoleCommand :=
  { argv := ["sh", "-c", Chunk.consoleCommand], stdin := Chunk.ofCall script args }

end ClusterKeeper
