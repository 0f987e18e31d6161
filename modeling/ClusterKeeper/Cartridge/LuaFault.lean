import ClusterKeeper.Json.Wire

/-!
The error object that Cartridge returns, and the envelope of a call's result with such an error.
-/

namespace ClusterKeeper

/-- An error object of Cartridge. -/
structure LuaFault where
  /-- The line the error was raised at. -/
  line : Int64
  /-- The class of the error. -/
  className : String
  /-- What went wrong. -/
  err : String
  /-- The file the error was raised in. -/
  file : String
  /-- The traceback. -/
  stack : String
  deriving DecidableEq

namespace LuaFault

/-- The error object without any information. -/
def blank : LuaFault := ⟨0, "", "", "", ""⟩

instance : Inhabited LuaFault := ⟨blank⟩

/-- The class and the message. -/
def message (f : LuaFault) : String := f.className ++ ": " ++ f.err

instance : Wire LuaFault where
  read j := do
    let ms ← j.record? ["line", "class_name", "err", "file", "stack"]
    return {
      line := ← ms.defaulted "line" 0
      className := ← ms.defaulted "class_name" ""
      err := ← ms.defaulted "err" ""
      file := ← ms.defaulted "file" ""
      stack := ← ms.defaulted "stack" "" }
  write f := .present [
    .always "line" f.line,
    .always "class_name" f.className,
    .always "err" f.err,
    .always "file" f.file,
    .always "stack" f.stack]

end LuaFault

/-- The result of a call with the error it may have ended in. -/
structure Envelope (α : Type) where
  res : α
  err : Option LuaFault

namespace Envelope

/-- Reads an envelope whose result has a default. -/
def read {α : Type} [Wire α] (default : α) (j : Json) : Option (Envelope α) := do
  let ms ← j.record? ["res", "err"]
  return { res := ← ms.defaulted "res" default, err := ← ms.optional "err" }

/-- Reads an envelope of a flag, which is false when absent. -/
def flag? (j : Json) : Option (Envelope Bool) := read false j

/-- Reads an envelope of any result. -/
def any? (j : Json) : Option (Envelope Json) := read .null j

/-- Writes an envelope. -/
def write {α : Type} [Wire α] (e : Envelope α) : Json :=
  .object [("res", Wire.write e.res), ("err", Wire.nullable e.err)]

end Envelope

end ClusterKeeper
