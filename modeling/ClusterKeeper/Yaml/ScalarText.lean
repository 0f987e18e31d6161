import ClusterKeeper.Json.Reader
import ClusterKeeper.Yaml.Cursor

/-!
The texts of scalars: plain, quoted and block. Each reader starts at a cursor and gives the text with
its line breaks folded, and the cursor after it.

A run of blanks and breaks inside a scalar is held as a `Gap`. Within a line the blanks stay as they
are; a single break becomes a blank; of several breaks the first is dropped.
-/

namespace ClusterKeeper.Yaml

/-- Blanks and breaks between two parts of a scalar. -/
structure Gap where
  /-- Blanks of the line before any break. -/
  blanks : List Char
  /-- The first break in its normal form. -/
  first : List Char
  /-- The breaks after it. -/
  more : List Char
  /-- Whether a line was left. -/
  broken : Bool

namespace Gap

/-- No blank and no break. -/
def none : Gap := ⟨[], [], [], false⟩

/-- A line that was left by an escaped break, of which nothing stays. -/
def escaped : Gap := ⟨[], [], [], true⟩

/-- What stays of a gap between two parts. -/
def fold (g : Gap) : List Char :=
  if g.broken then
    if g.first.head? = some '\n' then
      if g.more = [] then [' '] else g.more
    else g.first ++ g.more
  else g.blanks

/-- Takes the blanks and breaks at a cursor. A tab in the indentation of a line is refused before the
column `indent`. -/
def take (indent : Nat) : (fuel : Nat) → Gap → Cursor → Option (Gap × Cursor)
  | 0, g, c => some (g, c)
  | fuel + 1, g, c =>
    match c.rest with
    | [] => some (g, c)
    | b :: _ =>
      if isBlank b then
        if g.broken then
          if b = '\t' ∧ c.column < indent then Option.none
          else take indent fuel g (c.advance 1)
        else take indent fuel { g with blanks := g.blanks ++ [b] } (c.advance 1)
      else if isBreak b then
        let (kept, next) := c.takeBreak
        if g.broken then take indent fuel { g with more := g.more ++ kept } next
        else take indent fuel { g with blanks := [], first := kept, broken := true } next
      else some (g, c)

end Gap

/-! ### Plain scalars -/

/-- Characters that structure a flow collection. -/
def isFlowIndicator (c : Char) : Bool :=
  c == ',' || c == '[' || c == ']' || c == '{' || c == '}'

/-- The part of a plain scalar up to the next blank, break or indicator. In a flow collection a colon
before an indicator is refused. -/
def plainPart (flow : Bool) : List Char → Option (List Char)
  | [] => some []
  | c :: rest =>
    if isBlank c || isBreak c then some []
    else if flow && c == ':' && nextIs (fun d => isFlowIndicator d || d == '?') rest then none
    else if (c == ':' && atGap rest) || (flow && isFlowIndicator c) then some []
    else (plainPart flow rest).map (c :: ·)

/-- The rest of a plain scalar after a gap, and whether a line was left at its end. -/
def plainMore (flow : Bool) (indent : Nat) :
    (fuel : Nat) → Gap → Cursor → Option (List Char × Bool × Cursor)
  | 0, g, c => some ([], g.broken, c)
  | fuel + 1, g, c =>
    if (c.column == 0 && atDocumentMark c.rest) || nextIs (· == '#') c.rest then
      some ([], g.broken, c)
    else
      match plainPart flow c.rest with
      | none => none
      | some part =>
        let lead := if part = [] then [] else g.fold ++ part
        let next := c.advance part.length
        let g := if part = [] then g else .none
        if !nextIs (fun b => isBlank b || isBreak b) next.rest then some (lead, g.broken, next)
        else
          match g.take indent next.rest.length next with
          | none => none
          | some (g, next) =>
            if !flow && next.column < indent then some (lead, g.broken, next)
            else
              (plainMore flow indent fuel g next).map fun (text, broken, last) =>
                (lead ++ text, broken, last)

/-- A plain scalar whose further lines have to be indented by `indent`, with a flag that tells whether
a line was left at its end. -/
def plainScalar (flow : Bool) (indent : Nat) (c : Cursor) : Option (List Char × Bool × Cursor) :=
  plainMore flow indent (c.rest.length + 1) .none c

/-! ### Quoted scalars -/

/-- The value of some hexadecimal digits. -/
def hexNumber? (digits : List Char) : Option Nat :=
  digits.foldlM (fun n d => (Json.hexValue? d).map (n * 16 + ·)) 0

/-- The character of a code point that is no surrogate. -/
def codePoint? (n : Nat) : Option Char :=
  if h : n.isValidChar then some (Char.ofNatAux n h) else none

/-- The character of an escape without digits. -/
def simpleEscape? (c : Char) : Option Char :=
  match c with
  | '0' => some '\x00'
  | 'a' => some '\x07'
  | 'b' => some '\x08'
  | 't' | '\t' => some '\t'
  | 'n' => some '\n'
  | 'v' => some '\x0b'
  | 'f' => some '\x0c'
  | 'r' => some '\r'
  | 'e' => some '\x1b'
  | ' ' => some ' '
  | '"' => some '"'
  | '/' => some '/'
  | '\\' => some '\\'
  | 'N' => some '\x85'
  | '_' => some '\xa0'
  | 'L' => some '\u2028'
  | 'P' => some '\u2029'
  | _ => none

/-- The number of digits that follow an escape letter. -/
def escapeDigits? (c : Char) : Option Nat :=
  match c with
  | 'x' => some 2
  | 'u' => some 4
  | 'U' => some 8
  | _ => none

/-- The character that a double quoted escape stands for, and how many characters write it. The text
starts after the backslash. -/
def escape? : List Char → Option (Char × Nat)
  | [] => none
  | e :: rest =>
    match simpleEscape? e, escapeDigits? e with
    | some c, _ => some (c, 2)
    | none, some n =>
      if (rest.take n).length = n then
        ((hexNumber? (rest.take n)).bind codePoint?).map (·, n + 2)
      else none
    | none, none => none

/-- How a part of a quoted scalar ends: at the quotation mark, at a gap, or at an escaped break. -/
inductive PartEnd where
  | quote
  | gap
  | escapedBreak

/-- The part of a quoted scalar up to its end or the next gap, the count of its characters, and how
it ends. -/
def quotedPart (single : Bool) : (fuel : Nat) → List Char → Option (List Char × Nat × PartEnd)
  | 0, _ => none
  | _ + 1, [] => some ([], 0, .gap)
  | fuel + 1, c :: rest =>
    let onward (kept : Char) (n : Nat) (rest : List Char) :=
      (quotedPart single fuel rest).map fun (text, m, stop) => (kept :: text, n + m, stop)
    if isBlank c || isBreak c then some ([], 0, .gap)
    else if single then
      match c, rest with
      | '\'', '\'' :: rest => onward '\'' 2 rest
      | '\'', _ => some ([], 0, .quote)
      | c, rest => onward c 1 rest
    else
      match c with
      | '"' => some ([], 0, .quote)
      | '\\' =>
        if nextIs isBreak rest then some ([], 0, .escapedBreak)
        else
          match escape? rest with
          | some (e, n) => onward e n (rest.drop (n - 1))
          | none => none
      | c => onward c 1 rest

/-- The rest of a quoted scalar, its closing quotation mark included. -/
def quotedMore (single : Bool) : (fuel : Nat) → Cursor → Option (List Char × Cursor)
  | 0, _ => none
  | fuel + 1, c =>
    if (c.column == 0 && atDocumentMark c.rest) || c.rest.isEmpty then none
    else
      match quotedPart single (c.rest.length + 1) c.rest with
      | none => none
      | some (part, n, stop) =>
        let next := c.advance n
        let onward (g : Gap) (next : Cursor) :=
          match g.take 0 next.rest.length next with
          | none => none
          | some (g, next) =>
            (quotedMore single fuel next).map fun (text, last) => (part ++ g.fold ++ text, last)
        match stop with
        | .quote => some (part, next.advance 1)
        | .escapedBreak => onward .escaped (next.advance 1).takeBreak.2
        | .gap => onward .none next

/-- A quoted scalar from its opening quotation mark. -/
def quotedScalar (single : Bool) (c : Cursor) : Option (List Char × Cursor) :=
  quotedMore single (c.rest.length + 1) (c.advance 1)

/-! ### Block scalars -/

/-- What becomes of the breaks at the end of a block scalar. -/
inductive Chomping where
  | strip
  | clip
  | keep

/-- The header of a block scalar: chomping, and the indentation when it is given. -/
def blockHeader (cs : List Char) : Option (Chomping × Option Nat × Nat) :=
  let chomping? : Char → Option Chomping
    | '+' => some .keep
    | '-' => some .strip
    | _ => none
  let digit? (c : Char) : Option (Option Nat) :=
    if c = '0' then none else some (if c.isDigit then some (c.toNat - '0'.toNat) else none)
  match cs with
  | [] => some (.clip, none, 0)
  | a :: rest =>
    match chomping? a with
    | some chomping =>
      match rest with
      | [] => some (chomping, none, 1)
      | b :: _ => (digit? b).map fun n => (chomping, n, if n.isSome then 2 else 1)
    | none =>
      match digit? a with
      | none => none
      | some none => some (.clip, none, 0)
      | some n =>
        match rest.head?.bind chomping? with
        | some chomping => some (chomping, n, 2)
        | none => some (.clip, n, 1)

/-- The breaks before a line with content and the place of that content, the indentation up to a
column skipped. Also the greatest column that was met. -/
def blockBreaks (indent : Option Nat) :
    (fuel : Nat) → (greatest : Nat) → Cursor → Option (List Char × Nat × Cursor)
  | 0, greatest, c => some ([], greatest, c)
  | fuel + 1, greatest, c =>
    let blanks := (c.rest.takeWhile (· == ' ')).length
    let c := c.advance (match indent with
      | some n => min blanks (n - c.column)
      | none => blanks)
    let greatest := max greatest c.column
    let inIndent := match indent with
      | some n => decide (c.column < n)
      | none => true
    if inIndent && nextIs (· == '\t') c.rest then none
    else if nextIs isBreak c.rest then
      let (kept, next) := c.takeBreak
      (blockBreaks indent fuel greatest next).map fun (breaks, g, last) => (kept ++ breaks, g, last)
    else some ([], greatest, c)

/-- The lines of a block scalar from a first one on: the text, and the last break with the breaks
after it. -/
def blockLines (literal : Bool) (indent : Nat) :
    (fuel : Nat) → (first more : List Char) → (blankBefore : Bool) → Cursor →
      Option (List Char × List Char × List Char × Cursor)
  | 0, first, more, _, c => some ([], first, more, c)
  | fuel + 1, first, more, blankBefore, c =>
    if c.column = indent ∧ c.rest ≠ [] then
      let blankHere := nextIs isBlank c.rest
      let joint :=
        if !literal && first.head? == some '\n' && !blankBefore && !blankHere then
          (if more = [] then [' '] else []) ++ more
        else first ++ more
      let (line, next) := c.takeWhile (fun b => !isBreak b)
      let (kept, next) := next.takeBreak
      match blockBreaks (some indent) (next.rest.length + 1) 0 next with
      | none => none
      | some (breaks, _, next) =>
        (blockLines literal indent fuel kept breaks blankHere next).map
          fun (text, first, more, last) => (joint ++ line ++ text, first, more, last)
    else some ([], first, more, c)

/-- A block scalar from its indicator, inside a block that is indented by `outer`. -/
def blockScalar (literal : Bool) (outer : Int) (c : Cursor) : Option (List Char × Cursor) :=
  let c := c.advance 1
  match blockHeader c.rest with
  | none => none
  | some (chomping, increment, n) =>
    let c := (c.advance n).skipWhile isBlank
    let c := if nextIs (· == '#') c.rest then c.skipWhile (fun b => !isBreak b) else c
    if !atLineEnd c.rest then none
    else
      let c := c.takeBreak.2
      let given := increment.map fun n => (max outer 0).toNat + n
      match blockBreaks given (c.rest.length + 1) 0 c with
      | none => none
      | some (breaks, greatest, c) =>
        let indent := given.getD (max (max greatest (outer + 1).toNat) 1)
        match blockLines literal indent (c.rest.length + 1) [] breaks false c with
        | none => none
        | some (text, first, more, c) =>
          let tail := match chomping with
            | .strip => []
            | .clip => first
            | .keep => first ++ more
          some (text ++ tail, c)

end ClusterKeeper.Yaml
