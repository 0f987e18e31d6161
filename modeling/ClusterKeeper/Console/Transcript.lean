import ClusterKeeper.Cartridge.AdminError
import ClusterKeeper.Json.Printer
import ClusterKeeper.Json.Reader
import ClusterKeeper.Text.Base64
import ClusterKeeper.Text.Blank
import ClusterKeeper.Text.Hex
import ClusterKeeper.Yaml.Document

/-!
Console transcripts: the YAML document in which a console shows what a chunk returned. It is a list of
one record, with a flag for success and the payload, as base64 under one key or as hexadecimal under
another.

    ---
    - ok: true
      res: WyJ2c2hhcmQtcm91dGVyIl0=
    ...

A transcript is read in two stages. First its framing is taken off wherever it stands: the document's
mark with the dash of the list, every line of three characters, and the indentation of a payload's key.
The rest is then read as one record.
-/

namespace ClusterKeeper.Transcript

/-- A character that is not the end of a line. -/
def inLine (c : Char) : Bool := c != '\n'

/-- Takes off the marks that start a list: at the start of a line three dashes, then on the next line
a dash and one blank character. `lineStart` tells whether the text begins a line. -/
def withoutOpening (lineStart : Bool) (cs : List Char) : List Char :=
  match cs with
  | '-' :: '-' :: '-' :: '\n' :: '-' :: b :: rest =>
    if lineStart && Text.isBlank b then withoutOpening (b == '\n') rest
    else '-' :: withoutOpening false ('-' :: '-' :: '\n' :: '-' :: b :: rest)
  | c :: rest => c :: withoutOpening (c == '\n') rest
  | [] => []
termination_by cs.length

/-- Whether a text is over or continues on a new line. -/
def atLineEnd : List Char → Bool
  | [] => true
  | c :: _ => c == '\n'

/-- Takes off the lines of three characters, each with the break before it, and with the break after
it when that ends the text or another break follows. -/
def withoutShortLines (cs : List Char) : List Char :=
  match cs with
  | '\n' :: a :: b :: c :: rest =>
    if inLine a && inLine b && inLine c && atLineEnd rest then
      match rest with
      | '\n' :: after =>
        if atLineEnd after then withoutShortLines after else withoutShortLines ('\n' :: after)
      | _ => []
    else '\n' :: withoutShortLines (a :: b :: c :: rest)
  | c :: rest => c :: withoutShortLines rest
  | [] => []
termination_by cs.length

/-- The keys of a payload, each with its colon. -/
def payloadKeys : List (List Char) := ["res:".toList, "hex:".toList]

/-- Puts the payload's keys at the start of their lines: blank characters between a break and such a
key are taken off. -/
def withoutIndentation (cs : List Char) : List Char :=
  match cs with
  | [] => []
  | c :: rest =>
    let key := Text.trimLeft rest
    if c == '\n' && payloadKeys.any (·.isPrefixOf key) then
      '\n' :: (key.take 4 ++ withoutIndentation (key.drop 4))
    else c :: withoutIndentation rest
termination_by cs.length
decreasing_by
  · simp only [List.length_drop, List.length_cons, Text.trimLeft]
    have := (List.dropWhile_suffix Text.isBlank (l := rest)).length_le
    omega
  · simp

/-- The text of the record in a transcript. -/
def body (transcript : String) : String :=
  String.ofList (withoutIndentation (withoutShortLines (withoutOpening true transcript.toList)))

/-- The record of a transcript. A payload is absent when its value is no text and no number. -/
structure Record where
  ok : Bool
  res : Option String
  hex : Option String
  deriving DecidableEq

namespace Record

open Yaml

/-- The text of a payload. A payload of digits is read as a number, so numbers are put back to text. -/
def payloadText : Datum → Option String
  | .scalar (.text s) => some (String.ofList (Text.trim s.toList))
  | .scalar (.int i) => some (toString i)
  | .scalar (.real (.finite x)) => some x.toText
  | .scalar (.real (.infinite negative)) => some (if negative then "-.inf" else ".inf")
  | .scalar (.real .notANumber) => some ".nan"
  | _ => none

/-- The members of a record while it is read. -/
structure Draft where
  ok : Option Bool
  res : Option (Option Datum)
  hex : Option (Option Datum)

/-- Takes one entry into a draft. A known member may be given once. -/
def take (doc : Document) (d : Draft) (e : Node × Node) : Loader Draft := do
  match ← doc.keyText e.1 with
  | "ok" => if d.ok.isSome then failure else return { d with ok := some (← doc.bool e.2) }
  | "res" =>
    if d.res.isSome then failure
    else return { d with res := some (← doc.optionalDatum (depthLimit - 1) e.2) }
  | "hex" =>
    if d.hex.isSome then failure
    else return { d with hex := some (← doc.optionalDatum (depthLimit - 1) e.2) }
  | _ => return d

/-- The record of a document, if the document is not null. -/
def ofDocument (doc : Document) : Loader (Option Record) := do
  match ← doc.target doc.root with
  | .scalar tag style text =>
    if ← StateT.lift (Document.saysAbsent tag style text) then return none else failure
  | .mapping _ entries =>
    let d ← entries.foldlM (take doc) ⟨none, none, none⟩
    match d.ok with
    | some ok => return some {
        ok
        res := d.res.join.bind payloadText
        hex := d.hex.join.bind payloadText }
    | none => failure
  | _ => failure

/-- The record in a text: an error, no record, or a record. -/
def ofText? (text : String) : Option (Option Record) :=
  match Document.ofText? text with
  | none => none
  | some none => some none
  | some (some doc) => ((ofDocument doc).run 0).map (·.1)

/-- The bytes of a record's payload. -/
def payload (transcript : String) (r : Record) : Except TranscriptFault (List UInt8) :=
  match r.res, r.hex with
  | some res, _ => (Base64.decode? res.toList).elim (.error .badBase64) .ok
  | none, some hex => (Hex.decode? hex.toList).elim (.error .badHex) .ok
  | none, none => .error (.noResult transcript)

end Record

/-- The result that a payload carries, or the error that a script raised. -/
def result (ok : Bool) (payload : Json) : Except AdminError Json :=
  if ok then .ok payload
  else .error (.remote (match payload with
    | .str s => s
    | other => other.compact))

/-- Reads a transcript. -/
def decode (transcript : String) : Except AdminError Json :=
  match Record.ofText? (body transcript) with
  | none => .error (.transcript (.unreadable transcript))
  | some none => .error (.transcript (.empty transcript))
  | some (some r) =>
    match r.payload transcript with
    | .error fault => .error (.transcript fault)
    | .ok bytes =>
      match Json.parseBytes? bytes.toByteArray with
      | none => .error .decode
      | some payload => result r.ok payload

/-- The transcript of a payload. -/
def render (ok : Bool) (payload : Json) : String :=
  let text := String.ofList (Base64.encode payload.compact.toByteArray.toList)
  "---\n- ok: " ++ (if ok then "true" else "false") ++ "\n  res: " ++ text ++ "\n...\n"

end ClusterKeeper.Transcript
