import ClusterKeeper.Yaml.ScalarText

/-!
The tokens of a YAML text. Besides the characters that stand for themselves, tokens open and close
blocks where the indentation grows and shrinks, and a key token stands before every key.

A key that is not announced by a question mark is recognised late, at its colon: its token is then put
in front of what was already read. A place where such a key may start is a `KeyPlace`; there is at most
one for each flow collection that is open and one for the block around them. The place is given up
at the end of the line, and where a key has to stand this is an error.
-/

namespace ClusterKeeper.Yaml

/-- How a scalar is written. -/
inductive ScalarStyle where
  | plain
  | singleQuoted
  | doubleQuoted
  | literal
  | folded
  deriving DecidableEq

/-- A token. -/
inductive Token where
  | versionDirective (major minor : Nat)
  | tagDirective (handle start : String)
  | documentStart
  | documentEnd
  | blockSequenceStart
  | blockMappingStart
  | blockEnd
  | flowSequenceStart
  | flowSequenceEnd
  | flowMappingStart
  | flowMappingEnd
  | blockEntry
  | flowEntry
  | key
  | value
  | alias (name : String)
  | anchor (name : String)
  | tag (handle suffix : String)
  | scalar (style : ScalarStyle) (text : String)
  deriving DecidableEq

/-- A place where a key may have started. -/
structure KeyPlace where
  /-- A key has to stand here. -/
  required : Bool
  /-- The count of the tokens before it. -/
  number : Nat
  index : Nat
  line : Nat
  column : Nat

/-- What is known while the tokens of a text are read. -/
structure TokenReader where
  cursor : Cursor
  /-- The tokens so far, the last one first. -/
  read : List Token
  /-- The column of the innermost block, or minus one outside of all. -/
  indent : Int
  /-- The columns of the blocks around it, the nearest first. -/
  outer : List Int
  /-- The flow collections that are open. -/
  flowDepth : Nat
  /-- Whether a key may start at the next token. -/
  keyAllowed : Bool
  /-- The place of a key in the innermost flow collection or block. -/
  place : Option KeyPlace
  /-- The places in the collections around it, the nearest first. -/
  outerPlaces : List (Option KeyPlace)

namespace TokenReader

/-- Before the first token. -/
def start (cs : List Char) : TokenReader :=
  { cursor := .start cs, read := [], indent := -1, outer := [], flowDepth := 0, keyAllowed := true,
    place := none, outerPlaces := [] }

/-- Adds a token. -/
def push (t : Token) (r : TokenReader) : TokenReader := { r with read := t :: r.read }

/-- Puts a token behind the first `number` ones. -/
def insertAt (number : Nat) (t : Token) (r : TokenReader) : TokenReader :=
  let later := r.read.length - number
  { r with read := r.read.take later ++ t :: r.read.drop later }

/-- Goes on by some characters of the line. -/
def advance (n : Nat) (r : TokenReader) : TokenReader := { r with cursor := r.cursor.advance n }

/-- Whether no flow collection is open. -/
def inBlock (r : TokenReader) : Bool := r.flowDepth == 0

/-- The line may hold a key no longer than this. -/
def longestKey : Nat := 1024

/-- Whether a place of a key is on an earlier line, or too far back. -/
def KeyPlace.isStale (c : Cursor) (p : KeyPlace) : Bool :=
  p.line < c.line || p.index + longestKey < c.index

/-- Gives up a place of a key if it is stale; one where a key is required is an error. -/
def refresh (c : Cursor) : Option KeyPlace → Option (Option KeyPlace)
  | none => some none
  | some p => if KeyPlace.isStale c p then if p.required then none else some none else some (some p)

/-- Gives up the places of keys that are stale. -/
def dropStale (r : TokenReader) : Option TokenReader := do
  return { r with
    place := ← refresh r.cursor r.place
    outerPlaces := ← r.outerPlaces.mapM (refresh r.cursor) }

/-- Gives up the innermost place of a key. -/
def dropPlace (r : TokenReader) : Option TokenReader :=
  match r.place with
  | some p => if p.required then none else some { r with place := none }
  | none => some r

/-- Remembers the next token as a place of a key, when one is allowed. -/
def savePlace (r : TokenReader) : Option TokenReader :=
  if r.keyAllowed then
    r.dropPlace.map fun r => { r with
      place := some {
        required := r.inBlock && r.indent == Int.ofNat r.cursor.column
        number := r.read.length
        index := r.cursor.index
        line := r.cursor.line
        column := r.cursor.column } }
  else some r

/-- Opens a block at a column, unless one is open there, with its token behind the first `number`
ones or at the end. -/
def openBlock (column : Nat) (number : Option Nat) (t : Token) (r : TokenReader) : TokenReader :=
  if r.inBlock && decide (r.indent < Int.ofNat column) then
    let r := { r with indent := Int.ofNat column, outer := r.indent :: r.outer }
    match number with
    | some n => r.insertAt n t
    | none => r.push t
  else r

/-- Closes the blocks that are indented further than a column. -/
def closeBlocks (column : Int) (r : TokenReader) : TokenReader :=
  if r.inBlock then go r.outer r else r
where
  /-- The blocks around the innermost one are given. -/
  go : List Int → TokenReader → TokenReader
    | [], r => r
    | i :: is, r =>
      if column < r.indent then go is { r.push .blockEnd with indent := i, outer := is } else r

/-- Skips blanks, comments and breaks up to the next token. A tab is no blank where a key may start
in a block. -/
def skipGap : (fuel : Nat) → TokenReader → TokenReader
  | 0, r => r
  | fuel + 1, r =>
    let c := r.cursor
    let c := if c.index == 0 && nextIs (· == byteOrderMark) c.rest then c.advance 1 else c
    let c := c.skipWhile (fun b => b == ' ' || ((!r.inBlock || !r.keyAllowed) && b == '\t'))
    let c := if nextIs (· == '#') c.rest then c.skipWhile (fun b => !isBreak b) else c
    if nextIs isBreak c.rest then
      skipGap fuel { r with cursor := c.takeBreak.2, keyAllowed := r.keyAllowed || r.inBlock }
    else { r with cursor := c }

/-! ### Tags and directives -/

/-- Characters of a tag's text. -/
def isTagChar (verbatim : Bool) (c : Char) : Bool :=
  isWord c || ";/?:@&=+$.!~*'()".toList.contains c || (verbatim && ",[]".toList.contains c)

/-- The bytes of some escapes of two hexadecimal digits. -/
def escapedBytes : List Char → Option (List UInt8 × List Char)
  | '%' :: a :: b :: rest => do
    let n := (← Json.hexValue? a) * 16 + (← Json.hexValue? b)
    let (bytes, rest) ← escapedBytes rest
    return (UInt8.ofNat n :: bytes, rest)
  | '%' :: _ => none
  | rest => some ([], rest)

/-- The characters of a tag's text with escapes resolved, and the count of characters read. -/
def tagText (verbatim : Bool) : (fuel : Nat) → List Char → Option (List Char × Nat)
  | 0, _ => some ([], 0)
  | _ + 1, [] => some ([], 0)
  | fuel + 1, c :: rest =>
    if c = '%' then do
      let (bytes, after) ← escapedBytes (c :: rest)
      let text ← String.fromUTF8? bytes.toByteArray
      let (more, n) ← tagText verbatim fuel after
      return (text.toList ++ more, n + ((c :: rest).length - after.length))
    else if isTagChar verbatim c then
      (tagText verbatim fuel rest).map fun (more, n) => (c :: more, n + 1)
    else some ([], 0)

/-- A tag's handle: an exclamation mark, or a word between two of them. -/
def tagHandle : List Char → Option (List Char)
  | '!' :: rest =>
    let word := rest.takeWhile isWord
    if nextIs (· == '!') (rest.drop word.length) then some ('!' :: word ++ ['!'])
    else some ('!' :: word)
  | _ => none

/-- A tag: its handle and suffix and the count of characters read. -/
def tagParts (cs : List Char) : Option (List Char × List Char × Nat) :=
  match cs with
  | '!' :: '<' :: rest => do
    let (text, n) ← tagText true (rest.length + 1) rest
    if text = [] then none
    else if nextIs (· == '>') (rest.drop n) then some ([], text, n + 3) else none
  | _ => do
    let handle ← tagHandle cs
    if handle.length > 1 ∧ handle.getLast? = some '!' then
      let (text, n) ← tagText false (cs.length + 1) (cs.drop handle.length)
      if text = [] then none else some (handle, text, handle.length + n)
    else
      let (text, n) ← tagText false (cs.length + 1) (cs.drop handle.length)
      let suffix := handle.drop 1 ++ text
      if suffix = [] then some ([], ['!'], 1) else some (['!'], suffix, handle.length + n)

/-- The digits of a version number, at most nine. -/
def versionNumber (c : Cursor) : Option (Nat × Cursor) :=
  let (ds, next) := c.takeWhile Char.isDigit
  if ds = [] ∨ 9 < ds.length then none
  else some (ds.foldl (fun n d => n * 10 + (d.toNat - '0'.toNat)) 0, next)

/-- A directive from its percent sign up to its arguments' end. -/
def directive (c : Cursor) : Option (Token × Cursor) :=
  let (name, c) := (c.advance 1).takeWhile isWord
  if name = [] ∨ !atGap c.rest then none
  else
    let c := c.skipWhile isBlank
    match String.ofList name with
    | "YAML" => do
      let (major, c) ← versionNumber c
      if nextIs (· == '.') c.rest then
        let (minor, c) ← versionNumber (c.advance 1)
        return (.versionDirective major minor, c)
      else none
    | "TAG" => do
      let handle ← tagHandle c.rest
      if handle.length > 1 ∧ handle.getLast? ≠ some '!' then none
      else
        let c := c.advance handle.length
        if !nextIs isBlank c.rest then none
        else
          let c := c.skipWhile isBlank
          let (text, n) ← tagText true (c.rest.length + 1) c.rest
          let c := c.advance n
          if text = [] ∨ !atGap c.rest then none
          else return (.tagDirective (String.ofList handle) (String.ofList text), c)
    | _ => none

/-! ### One token -/

/-- Reads a directive. -/
def takeDirective (r : TokenReader) : Option TokenReader := do
  let r ← (r.closeBlocks (-1)).dropPlace
  let (t, c) ← directive r.cursor
  let c := c.skipWhile isBlank
  let c := if nextIs (· == '#') c.rest then c.skipWhile (fun b => !isBreak b) else c
  if atLineEnd c.rest then
    return ({ r with cursor := c.takeBreak.2, keyAllowed := false } : TokenReader).push t
  else none

/-- Reads a mark at the start or the end of a document. -/
def takeDocumentMark (t : Token) (r : TokenReader) : Option TokenReader := do
  let r ← (r.closeBlocks (-1)).dropPlace
  return ({ r with keyAllowed := false }.advance 3).push t

/-- Opens a flow collection. -/
def openFlow (t : Token) (r : TokenReader) : Option TokenReader := do
  let r ← r.savePlace
  return ({ r with
    place := none
    outerPlaces := r.place :: r.outerPlaces
    flowDepth := r.flowDepth + 1
    keyAllowed := true }.advance 1).push t

/-- Closes a flow collection. -/
def closeFlow (t : Token) (r : TokenReader) : Option TokenReader := do
  let r ← r.dropPlace
  let r := { r.advance 1 with keyAllowed := false }
  let r := match r.flowDepth, r.outerPlaces with
    | depth + 1, place :: places => { r with flowDepth := depth, place, outerPlaces := places }
    | _, _ => r
  return r.push t

/-- Reads a comma of a flow collection. -/
def takeFlowEntry (r : TokenReader) : Option TokenReader := do
  let r ← r.dropPlace
  return ({ r with keyAllowed := true }.advance 1).push .flowEntry

/-- Reads the dash of a block sequence. -/
def takeBlockEntry (r : TokenReader) : Option TokenReader := do
  if r.inBlock && !r.keyAllowed then none
  else
    let r ← (r.openBlock r.cursor.column none .blockSequenceStart).dropPlace
    return ({ r with keyAllowed := true }.advance 1).push .blockEntry

/-- Reads the question mark before a key. -/
def takeKey (r : TokenReader) : Option TokenReader := do
  if r.inBlock && !r.keyAllowed then none
  else
    let r ← (r.openBlock r.cursor.column none .blockMappingStart).dropPlace
    return ({ r with keyAllowed := r.inBlock }.advance 1).push .key

/-- Reads the colon before a value. -/
def takeValue (r : TokenReader) : Option TokenReader :=
  match r.place with
  | some p =>
    let r := (r.insertAt p.number .key).openBlock p.column (some p.number) .blockMappingStart
    some (({ r with place := none, keyAllowed := false }.advance 1).push .value)
  | none =>
    if r.inBlock && !r.keyAllowed then none
    else
      let r := r.openBlock r.cursor.column none .blockMappingStart
      some (({ r with keyAllowed := r.inBlock }.advance 1).push .value)

/-- Reads an anchor or an alias. -/
def takeName (t : String → Token) (r : TokenReader) : Option TokenReader := do
  let r ← r.savePlace
  let (name, c) := (r.cursor.advance 1).takeWhile isWord
  let mayFollow (b : Char) : Bool := isBlank b || isBreak b || b == '}' || "?:,]%@`".toList.contains b
  if name ≠ [] && orEnd mayFollow c.rest then
    return ({ r with cursor := c, keyAllowed := false } : TokenReader).push (t (String.ofList name))
  else none

/-- Reads a tag. -/
def takeTag (r : TokenReader) : Option TokenReader := do
  let r ← r.savePlace
  let (handle, suffix, n) ← tagParts r.cursor.rest
  let r := { r with keyAllowed := false }.advance n
  if atGap r.cursor.rest || (!r.inBlock && nextIs (· == ',') r.cursor.rest) then
    return r.push (.tag (String.ofList handle) (String.ofList suffix))
  else none

/-- Reads a block scalar. -/
def takeBlockScalar (literal : Bool) (r : TokenReader) : Option TokenReader := do
  let r ← r.dropPlace
  let (text, c) ← blockScalar literal r.indent r.cursor
  return ({ r with cursor := c, keyAllowed := true } : TokenReader).push
    (.scalar (if literal then .literal else .folded) (String.ofList text))

/-- Reads a quoted scalar. -/
def takeQuoted (single : Bool) (r : TokenReader) : Option TokenReader := do
  let r ← r.savePlace
  let (text, c) ← quotedScalar single r.cursor
  return ({ r with cursor := c, keyAllowed := false } : TokenReader).push
    (.scalar (if single then .singleQuoted else .doubleQuoted) (String.ofList text))

/-- Reads a plain scalar. -/
def takePlain (r : TokenReader) : Option TokenReader := do
  let r ← r.savePlace
  let (text, broken, c) ← plainScalar (!r.inBlock) (r.indent + 1).toNat r.cursor
  return ({ r with cursor := c, keyAllowed := broken } : TokenReader).push
    (.scalar .plain (String.ofList text))

/-- Characters that never start a plain scalar, if nothing is said about the next one. -/
def isIndicator (c : Char) : Bool := c == '{' || c == '}' || "-?:,[]#&*!|>'\"%@`".toList.contains c

/-- Whether a plain scalar starts here. -/
def startsPlain (inBlock : Bool) : List Char → Bool
  | [] => false
  | c :: rest =>
    !(isBlank c || isBreak c || isIndicator c) || (c == '-' && !nextIs isBlank rest) ||
      (inBlock && (c == '?' || c == ':') && !atGap rest)

/-- Reads the token at the cursor, which is not the end of the text. -/
def takeToken (c : Char) (rest : List Char) (r : TokenReader) : Option TokenReader :=
  let gap := atGap rest
  let first := r.cursor.column == 0
  if first && c == '%' then r.takeDirective
  else if first && c == '-' && atDocumentMark (c :: rest) then r.takeDocumentMark .documentStart
  else if first && c == '.' && atDocumentMark (c :: rest) then r.takeDocumentMark .documentEnd
  else if c = '[' then r.openFlow .flowSequenceStart
  else if c = '{' then r.openFlow .flowMappingStart
  else if c = ']' then r.closeFlow .flowSequenceEnd
  else if c = '}' then r.closeFlow .flowMappingEnd
  else if c = ',' then r.takeFlowEntry
  else if c == '-' && gap then r.takeBlockEntry
  else if c == '?' && (!r.inBlock || gap) then r.takeKey
  else if c == ':' && (!r.inBlock || gap) then r.takeValue
  else if c = '*' then r.takeName .alias
  else if c = '&' then r.takeName .anchor
  else if c = '!' then r.takeTag
  else if c == '|' && r.inBlock then r.takeBlockScalar true
  else if c == '>' && r.inBlock then r.takeBlockScalar false
  else if c = '\'' then r.takeQuoted true
  else if c = '"' then r.takeQuoted false
  else if startsPlain r.inBlock (c :: rest) then r.takePlain
  else none

/-- Closes what is open at the end of the text. -/
def finish (r : TokenReader) : Option TokenReader := (r.closeBlocks (-1)).dropPlace

/-- Reads tokens up to the end of the text; every token but the closing ones takes a character. -/
def run : (fuel : Nat) → TokenReader → Option TokenReader
  | 0, _ => none
  | fuel + 1, r => do
    let r ← (r.skipGap (r.cursor.rest.length + 1)).dropStale
    let r := r.closeBlocks (Int.ofNat r.cursor.column)
    match r.cursor.rest with
    | [] => r.finish
    | c :: rest =>
      let r ← r.takeToken c rest
      run fuel r

end TokenReader

/-- The tokens of a text. -/
def Token.ofText? (cs : List Char) : Option (List Token) :=
  if cs.all isAllowed then
    let cs := if nextIs (· == byteOrderMark) cs then cs.drop 1 else cs
    ((TokenReader.start cs).run (cs.length + 1)).map fun r => r.read.reverse
  else none

end ClusterKeeper.Yaml
