import ClusterKeeper.Proofs.Console.Record
import ClusterKeeper.Proofs.Json.RoundTrip
import ClusterKeeper.Proofs.Text.Base64
import ClusterKeeper.Proofs.Yaml.CoreSchema

/-!
A transcript that is rendered is decoded to what was rendered. The payload is the base64 of a JSON
text. It begins with a letter, since a JSON text begins with one of a few characters, and it is none of
the words that YAML keeps for itself, since no such word is the base64 of a JSON text. So YAML takes it
for a text, and it comes back to the letter. Main statement: `decode_render`.
-/

namespace ClusterKeeper.Transcript

open Yaml

/-- The payload of a value. -/
def payloadOf (v : Json) : List Char := Base64.encode v.compact.toByteArray.toList

/-- The transcript of a value, with its payload behind some indentation and with or without a break at
its end. -/
def renderWith (ok : Bool) (indent : List Char) (closed : Bool) (v : Json) : String :=
  String.ofList (framed ok indent "res".toList (payloadOf v) closed)

theorem render_eq (ok : Bool) (v : Json) : render ok v = renderWith ok [' ', ' '] true v := by
  refine ofList_framed ("---\n- ok: " ++ (if ok then "true" else "false") ++ "\n  res: ") ?_ (payloadOf v)
  cases ok <;> decide

/-! ### The payload -/

theorem isPlain_digit : ∀ n < 64, isPlain (Base64.digit n) := by
  decide

theorem isAlpha_opening {c : Char} (hc : Json.Opens c) :
    c.toNat < 0x80 ∧ (Base64.digit (c.toNat / 4)).isAlpha := by
  rcases hc with hc | hc
  · have hdigits : ∀ n < 58, 48 ≤ n → n < 0x80 ∧ (Base64.digit (n / 4)).isAlpha := by decide
    have hcode := Text.toNat_of_isDigit hc
    exact hdigits c.toNat (Nat.lt_succ_of_le hcode.2) hcode.1
  · have hlist : ['n', 't', 'f', '"', '[', '{', '-'].all fun c =>
        c.toNat < 0x80 && (Base64.digit (c.toNat / 4)).isAlpha := by decide
    simpa using List.all_eq_true.1 hlist c hc

/-- The first byte of a value's text is the character that opens it. -/
theorem bytes_head {v : Json} (hv : v.Integral) :
    ∃ c bytes, Json.Opens c ∧ v.compact.toByteArray.toList = UInt8.ofNat c.toNat :: bytes := by
  obtain ⟨c, cs, hcs, hc⟩ := Json.print_head hv
  have hchar : String.utf8EncodeChar c = [UInt8.ofNat c.toNat] := by
    rw [String.utf8EncodeChar]
    exact if_pos (Nat.le_of_lt_succ (isAlpha_opening hc).1)
  refine ⟨c, cs.flatMap String.utf8EncodeChar, hc, ?_⟩
  rw [Json.bytes_compact, hcs, List.flatMap_cons, hchar]
  rfl

/-- A payload begins with a letter. -/
theorem payloadOf_head {v : Json} (hv : v.Plain) :
    ∃ c cs, payloadOf v = c :: cs ∧ c.isAlpha := by
  obtain ⟨c, bytes, hc, hbytes⟩ := bytes_head hv.integral
  obtain ⟨hascii, halpha⟩ := isAlpha_opening hc
  obtain ⟨text, htext⟩ := Base64.encode_cons (UInt8.ofNat c.toNat) bytes
  refine ⟨Base64.digit (c.toNat / 4), text, ?_, halpha⟩
  rw [payloadOf, hbytes, htext, UInt8.toNat_ofNat_of_lt' (by exact Nat.lt_trans hascii (by decide))]

theorem isWord_payloadOf {v : Json} (hv : v.Plain) : IsWord (payloadOf v) := by
  obtain ⟨c, cs, hcs, _⟩ := payloadOf_head hv
  constructor
  · rw [hcs]
    exact List.cons_ne_nil c cs
  · exact Base64.forall_mem_encode isPlain_digit (by decide) _

/-- What a payload carries. -/
def carried? (payload : List Char) : Option Json :=
  (Base64.decode? payload).bind fun bytes => Json.parseBytes? bytes.toByteArray

theorem carried?_payloadOf {v : Json} (hv : v.Plain) : carried? (payloadOf v) = some v := by
  rw [carried?, payloadOf, Base64.decode?_encode]
  exact Json.parseBytes?_compact hv

theorem carried?_reserved : ∀ w ∈ CoreSchema.reservedWords, carried? w.toList = none := by
  decide +kernel

/-- A payload is read as the text that it is. -/
theorem resolve_payloadOf {v : Json} (hv : v.Plain) :
    Document.saysAbsent none .plain (String.ofList (payloadOf v)) = some false ∧
      CoreSchema.resolve (String.ofList (payloadOf v)) = .text (String.ofList (payloadOf v)) := by
  have hword : String.ofList (payloadOf v) ∉ CoreSchema.reservedWords := by
    intro hmem
    have hnone := carried?_reserved _ hmem
    rw [String.toList_ofList, carried?_payloadOf hv] at hnone
    exact absurd hnone (Option.some_ne_none v)
  obtain ⟨c, cs, hcs, hc⟩ := payloadOf_head hv
  rw [hcs] at hword ⊢
  refine ⟨?_, CoreSchema.resolve_of_isAlpha hc hword⟩
  have hnull := CoreSchema.not_null_of_isAlpha hword
  rw [not_or] at hnull
  show some (String.ofList (c :: cs) == "" || _) = some false
  rw [beq_false_of_ne hnull.1, Bool.eq_false_iff.2 hnull.2, Bool.or_false]

theorem trim_payloadOf (v : Json) : Text.trim (payloadOf v) = payloadOf v := by
  have hblank := Base64.forall_mem_encode (p := fun c => !Text.isBlank c) (by decide) (by decide)
    v.compact.toByteArray.toList
  exact Text.trim_of_not_blank fun c hc => by simpa using hblank c hc

/-- The record of a framed payload. -/
theorem ofText?_body (ok closed : Bool) {v : Json} (hv : v.Plain) {indent : List Char}
    (hindent : ∀ c ∈ indent, c = ' ' ∨ c = '\t') :
    Record.ofText? (body (renderWith ok indent closed v)) =
      some (some ⟨ok, some (String.ofList (payloadOf v)), none⟩) := by
  obtain ⟨hpresent, hresolve⟩ := resolve_payloadOf hv
  have hword := isWord_payloadOf hv
  have htext : Record.payloadText (.scalar (.text (String.ofList (payloadOf v)))) =
      some (String.ofList (payloadOf v)) := by
    rw [Record.payloadText, String.toList_ofList, trim_payloadOf]
  rw [body, renderWith, String.toList_ofList, unframed ok closed hindent (Or.inl rfl) hword,
    Record.ofText?_twoLines ok (Or.inl rfl) hword hpresent, hresolve]
  exact congrArg (fun text => some (some (⟨ok, text, none⟩ : Record))) htext

/-! ### Decoding -/

theorem decode_renderWith (ok closed : Bool) {v : Json} (hv : v.Plain) {indent : List Char}
    (hindent : ∀ c ∈ indent, c = ' ' ∨ c = '\t') :
    decode (renderWith ok indent closed v) = result ok v := by
  have hcarried := carried?_payloadOf hv
  rw [carried?] at hcarried
  obtain ⟨bytes, hbytes, hjson⟩ := Option.bind_eq_some_iff.1 hcarried
  rw [decode, ofText?_body ok closed hv hindent]
  simp only [Record.payload, String.toList_ofList, hbytes, Option.elim_some, hjson]

/-- The message of an error that was raised with a value: a text is its own message. -/
def message : Json → String
  | .str s => s
  | v => v.compact

theorem result_false (v : Json) : result false v = .error (.remote (message v)) := by
  cases v <;> rfl

/-- What was rendered comes back, as a result or as the error that was raised, however the payload's
line is indented and whether or not the last line is ended. -/
theorem decode_render {v : Json} (hvalid : v.Valid) (hintegral : v.Integral) (hdepth : v.depth < 128) :
    (decode (render true v) = .ok v ∧ decode (render false v) = .error (.remote (message v))) ∧
      ∀ (indent : List Char) (closed : Bool), (∀ c ∈ indent, c = ' ' ∨ c = '\t') →
        decode (renderWith true indent closed v) = .ok v ∧
          decode (renderWith false indent closed v) = .error (.remote (message v)) := by
  have hplain : v.Plain := ⟨hvalid, hintegral, Nat.le_of_lt_succ hdepth⟩
  have hdecode : ∀ (indent : List Char) (closed : Bool), (∀ c ∈ indent, c = ' ' ∨ c = '\t') →
      decode (renderWith true indent closed v) = .ok v ∧
        decode (renderWith false indent closed v) = .error (.remote (message v)) := by
    intro indent closed hindent
    rw [decode_renderWith true closed hplain hindent, decode_renderWith false closed hplain hindent,
      result_false]
    exact ⟨rfl, rfl⟩
  refine ⟨?_, hdecode⟩
  rw [render_eq, render_eq]
  exact hdecode [' ', ' '] true (by simp)

/-- A value full of what the framing is made of. -/
def delimiters : Json :=
  .obj [("- ok", .str "---\n- "), ("res", .arr [.str "\n...\n", .int (-1), .arr [], .null])]

theorem decode_render_delimiters :
    (delimiters.Valid ∧ delimiters.Integral ∧ delimiters.depth < 128) ∧
      decode (render true delimiters) = .ok delimiters ∧
        decode (renderWith true ['\t', ' '] false delimiters) = .ok delimiters := by
  have hvalid : delimiters.Valid :=
    ⟨by decide, trivial, ⟨trivial, (by decide : Json.InRange (-1)), trivial, trivial, trivial⟩,
      trivial⟩
  have hintegral : delimiters.Integral :=
    ⟨trivial, ⟨trivial, trivial, trivial, trivial, trivial⟩, trivial⟩
  have hdepth : delimiters.depth < 128 := by decide
  have hdecode := decode_render hvalid hintegral hdepth
  exact ⟨⟨hvalid, hintegral, hdepth⟩, hdecode.1.1, (hdecode.2 ['\t', ' '] false (by simp)).1⟩

end ClusterKeeper.Transcript
