/-!
Spans of time in whole milliseconds, and their text.
-/

namespace ClusterKeeper

/-- A span of time. -/
structure Duration where
  millis : Nat
  deriving DecidableEq, Repr, Inhabited

namespace Duration

/-- A number of seconds. -/
def seconds (n : Nat) : Duration := ⟨n * 1000⟩

/-- The whole seconds of a span. -/
def wholeSeconds (d : Duration) : Nat := d.millis / 1000

/-- A span is shown in seconds from one second on, with the fraction's digits up to its last zeros,
and in milliseconds below that. The empty span is shown in nanoseconds. -/
def toText (d : Duration) : String :=
  if d.millis = 0 then "0ns"
  else if d.millis < 1000 then toString d.millis ++ "ms"
  else
    let rest := d.millis % 1000
    let places := [rest / 100, rest / 10 % 10, rest % 10].map Nat.digitChar
    let shown := (places.reverse.dropWhile (· == '0')).reverse
    let fraction := if shown.isEmpty then "" else "." ++ String.ofList shown
    toString d.wholeSeconds ++ fraction ++ "s"

end Duration

end ClusterKeeper
