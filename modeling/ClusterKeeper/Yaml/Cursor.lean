/-!
A place in a YAML text: the characters that are left, with the line, the column and the count of the
characters before it. The classes of characters that the syntax turns on stand beside it.
-/

namespace ClusterKeeper.Yaml

/-- Characters that end a line. -/
def isBreak (c : Char) : Bool :=
  c == '\n' || c == '\r' || c == '\x85' || c == '\u2028' || c == '\u2029'

/-- The blank and the tab. -/
def isBlank (c : Char) : Bool := c == ' ' || c == '\t'

/-- Characters of anchors, tag handles and directive names. -/
def isWord (c : Char) : Bool := c.isAlphanum || c == '_' || c == '-'

/-- The characters that may occur in a text. -/
def isAllowed (c : Char) : Bool :=
  let n := c.toNat
  n == 0x09 || n == 0x0a || n == 0x0d || (0x20 ≤ n && n ≤ 0x7e) || n == 0x85 ||
    (0xa0 ≤ n && n ≤ 0xd7ff) || (0xe000 ≤ n && n ≤ 0xfffd) || 0x10000 ≤ n

/-- The mark that may stand before a text. -/
def byteOrderMark : Char := '\ufeff'

/-- A test of the next character that holds at the end of the text too. -/
def orEnd (p : Char → Bool) : List Char → Bool
  | [] => true
  | c :: _ => p c

/-- The next character is a blank, a break or missing. -/
def atGap (cs : List Char) : Bool := orEnd (fun c => isBlank c || isBreak c) cs

/-- The next character is a break or missing. -/
def atLineEnd (cs : List Char) : Bool := orEnd isBreak cs

/-- The next character satisfies a test. -/
def nextIs (p : Char → Bool) : List Char → Bool
  | [] => false
  | c :: _ => p c

/-- Whether a line that starts here marks the start or the end of a document. -/
def atDocumentMark : List Char → Bool
  | '-' :: '-' :: '-' :: rest => atGap rest
  | '.' :: '.' :: '.' :: rest => atGap rest
  | _ => false

/-- A place in a text. -/
structure Cursor where
  rest : List Char
  index : Nat
  line : Nat
  column : Nat

namespace Cursor

/-- The start of a text. -/
def start (cs : List Char) : Cursor := ⟨cs, 0, 0, 0⟩

/-- The place after some characters of the line. -/
def advance (c : Cursor) (n : Nat) : Cursor :=
  { c with rest := c.rest.drop n, index := c.index + n, column := c.column + n }

/-- The characters up to the first that fails a test, and the place of that one. The test holds of
no break. -/
def takeWhile (p : Char → Bool) (c : Cursor) : List Char × Cursor :=
  let taken := c.rest.takeWhile p
  (taken, c.advance taken.length)

/-- The place of the first character that fails a test, which holds of no break. -/
def skipWhile (p : Char → Bool) (c : Cursor) : Cursor := (c.takeWhile p).2

/-- The place after a break, a carriage return and a line feed being one, and the break in its
normal form. Without a break the place is the same. -/
def takeBreak (c : Cursor) : List Char × Cursor :=
  let next (rest : List Char) (n : Nat) : Cursor := ⟨rest, c.index + n, c.line + 1, 0⟩
  match c.rest with
  | '\r' :: '\n' :: rest => (['\n'], next rest 2)
  | b :: rest =>
    if b = '\n' ∨ b = '\r' ∨ b = '\x85' then (['\n'], next rest 1)
    else if isBreak b then ([b], next rest 1)
    else ([], c)
  | [] => ([], c)

end Cursor

end ClusterKeeper.Yaml
