import ClusterKeeper.Proofs.Console.Transcript
import ClusterKeeper.Proofs.Text.Hex
import ClusterKeeper.Proofs.Yaml.Numerals

/-!
Transcripts with a hexadecimal payload. Such a payload begins with a digit that is not zero, since a JSON text
begins with one of a few characters, so YAML takes it for a number if it writes one. A text and an integer of 64
bits come back to the letter; all other numbers do not, and the payload is lost. Main statement: `decode_renderHex`.
-/

namespace ClusterKeeper.Transcript

open Yaml

variable {upper : Bool} {v : Json}

/-- The hexadecimal payload of a value, in upper case or in lower case. -/
def hexOf (upper : Bool) (v : Json) : List Char := Hex.encodeIn upper v.compact.toByteArray.toList

/-- The transcript of a value with a hexadecimal payload. -/
def renderHex (upper : Bool) (v : Json) : String :=
  "---\n- ok: true\n  hex: " ++ String.ofList (hexOf upper v) ++ "\n...\n"

theorem renderHex_eq (upper : Bool) (v : Json) :
    renderHex upper v = String.ofList (framed true [' ', ' '] "hex".toList (hexOf upper v) true) :=
  ofList_framed _ (by decide) (hexOf upper v)

/-! ### The payload -/

theorem digit_of_opens (upper : Bool) {c : Char} (hc : Json.Opens c) :
    c.toNat < 0x80 ∧ (Hex.digit upper (c.toNat / 16)).isDigit ∧ Hex.digit upper (c.toNat / 16) ≠ '0' := by
  have hdigits : ∀ upper, ∀ n < 8, n ≠ 0 → (Hex.digit upper n).isDigit ∧ Hex.digit upper n ≠ '0' := by decide
  have hcode : 16 ≤ c.toNat ∧ c.toNat < 0x80 := by
    rcases hc with hc | hc
    · have hcode := Text.toNat_of_isDigit hc
      omega
    · have hlist : ['n', 't', 'f', '"', '[', '{', '-'].all fun c => 16 ≤ c.toNat && c.toNat < 0x80 := by decide
      simpa using List.all_eq_true.1 hlist c hc
  exact ⟨hcode.2, hdigits upper (c.toNat / 16) (by omega) (by omega)⟩

theorem isAlphanum_hexDigit : ∀ upper, ∀ n < 16, (Hex.digit upper n).isAlphanum := by
  decide

/-- A payload begins with a digit other than zero. -/
theorem hexOf_head (upper : Bool) (hv : v.Plain) :
    ∃ c cs, hexOf upper v = c :: cs ∧ c.isDigit ∧ c ≠ '0' ∧ ∀ d ∈ cs, d.isAlphanum := by
  obtain ⟨c, bytes, hc, hbytes⟩ := bytes_head hv.integral
  obtain ⟨hascii, hdigit, hzero⟩ := digit_of_opens upper hc
  have hall := Hex.forall_mem_encodeIn (isAlphanum_hexDigit upper) (v.compact.toByteArray.toList)
  have hfirst := Hex.encodeIn_cons upper (UInt8.ofNat c.toNat) bytes
  rw [UInt8.toNat_ofNat_of_lt' (by exact Nat.lt_trans hascii (by decide)), ← hbytes] at hfirst
  rw [hfirst] at hall
  exact ⟨_, _, hfirst, hdigit, hzero, (List.forall_mem_cons.1 hall).2⟩

theorem isWord_hexOf (hv : v.Plain) : IsWord (hexOf upper v) := by
  obtain ⟨c, cs, hcs, hc, _, hall⟩ := hexOf_head upper hv
  rw [hcs]
  refine ⟨List.cons_ne_nil c cs, fun d hd => ?_⟩
  have halnum : d.isAlphanum := by
    obtain rfl | hd := List.mem_cons.1 hd
    · exact CoreSchema.isAlphanum_of_isDigit hc
    · exact hall d hd
  rw [isPlain, halnum]
  rfl

/-- A payload is read as what the schema makes of it. -/
theorem ofText?_renderHex (hv : v.Plain) :
    Record.ofText? (body (renderHex upper v)) =
      (Document.scalarDatum? (CoreSchema.resolve (String.ofList (hexOf upper v)))).map fun d =>
        some ⟨true, none, Record.payloadText d⟩ := by
  obtain ⟨c, cs, hcs, hc, -, -⟩ := hexOf_head upper hv
  have hpresent : Document.saysAbsent none .plain (String.ofList (hexOf upper v)) = some false := by
    have hnull := CoreSchema.not_null_of_isDigit hc cs
    rw [not_or] at hnull
    rw [hcs]
    show some (String.ofList (c :: cs) == "" || _) = some false
    rw [beq_false_of_ne hnull.1, Bool.eq_false_iff.2 hnull.2, Bool.or_false]
  rw [body, renderHex_eq, String.toList_ofList, unframed true true (by simp) (Or.inr rfl) (isWord_hexOf hv),
    Record.ofText?_twoLines true (Or.inr rfl) (isWord_hexOf hv) hpresent]
  rfl

/-! ### Decoding -/

/-- What a payload is decoded to is told by the text that it is read as. -/
theorem decode_of_payloadText (hv : v.Plain) {d : Datum} {s : String}
    (hd : Document.scalarDatum? (CoreSchema.resolve (String.ofList (hexOf upper v))) = some d)
    (htext : Record.payloadText d = some s) :
    decode (renderHex upper v) = match Hex.decode? s.toList with
      | none => .error (.transcript .badHex)
      | some bytes => match Json.parseBytes? bytes.toByteArray with
        | none => .error .decode
        | some w => .ok w := by
  rw [decode, ofText?_renderHex hv, hd, Option.map_some, htext]
  simp only [Record.payload]
  cases Hex.decode? s.toList <;> rfl

/-- A payload that comes back to the letter is decoded. -/
theorem decode_of_kept (hv : v.Plain) {d : Datum}
    (hd : Document.scalarDatum? (CoreSchema.resolve (String.ofList (hexOf upper v))) = some d)
    (htext : Record.payloadText d = some (String.ofList (hexOf upper v))) : decode (renderHex upper v) = .ok v := by
  have hbytes : Hex.decode? (hexOf upper v) = some v.compact.toByteArray.toList := Hex.decode?_encodeIn _ _
  rw [decode_of_payloadText hv hd htext, String.toList_ofList, hbytes]
  simp only [Json.parseBytes?_compact hv]

theorem not_isBlank_hexDigit : ∀ upper, ∀ n < 16, !Text.isBlank (Hex.digit upper n) := by
  decide

theorem trim_hexOf (upper : Bool) (v : Json) : Text.trim (hexOf upper v) = hexOf upper v := by
  have hblank := Hex.forall_mem_encodeIn (p := fun c => !Text.isBlank c) (not_isBlank_hexDigit upper)
    v.compact.toByteArray.toList
  exact Text.trim_of_not_blank fun c hc => by simpa using hblank c hc

theorem decode_of_not_misread (hv : v.Plain) (h : ¬CoreSchema.Misread (hexOf upper v)) :
    decode (renderHex upper v) = .ok v := by
  obtain ⟨c, cs, hcs, hc, hzero, hall⟩ := hexOf_head upper hv
  rw [hcs] at h
  rcases CoreSchema.resolve_of_not_misread hc hzero hall h with hresolve | ⟨n, hresolve, hdigits⟩ <;>
    rw [← hcs] at hresolve
  · refine decode_of_kept hv (d := .scalar (.text (String.ofList (hexOf upper v)))) (by rw [hresolve]; rfl) ?_
    rw [Record.payloadText, String.toList_ofList, trim_hexOf]
  · refine decode_of_kept hv (d := .scalar (.int n)) (by rw [hresolve]; rfl) ?_
    rw [hcs, ← hdigits]
    rfl

theorem decode_of_misread (hv : v.Plain) (h : CoreSchema.Misread (hexOf upper v)) :
    decode (renderHex upper v) = .error (.transcript (.unreadable (renderHex upper v))) ∨
      decode (renderHex upper v) = .error (.transcript .badHex) := by
  obtain ⟨c, cs, hcs, hc, hzero, hall⟩ := hexOf_head upper hv
  rw [hcs] at h
  rcases CoreSchema.resolve_of_misread hc hzero hall h with ⟨i, hresolve⟩ | ⟨x, hresolve⟩ <;>
    rw [← hcs] at hresolve
  · left
    rw [decode, ofText?_renderHex hv, hresolve]
    rfl
  · right
    rw [decode_of_payloadText hv (d := .scalar (.real (.finite x))) (by rw [hresolve]; rfl) rfl,
      Double.hexDecode?_toText]

/-! ### Arrays and objects -/

theorem bracket_mem_printMoreItems (items : List Json) : ']' ∈ Json.printMoreItems items := by
  induction items with
  | nil => exact List.mem_cons_self
  | cons v items ih => exact List.mem_append_right _ ih

theorem brace_mem_printMoreMembers (members : List (String × Json)) : '}' ∈ Json.printMoreMembers members := by
  induction members with
  | nil => exact List.mem_cons_self
  | cons m members ih => exact List.mem_append_right _ ih

theorem bracket_mem_print (items : List Json) : ']' ∈ Json.print (.arr items) := by
  cases items with
  | nil => exact List.mem_cons_of_mem _ List.mem_cons_self
  | cons v items => exact List.mem_cons_of_mem _ (List.mem_append_right _ (bracket_mem_printMoreItems items))

theorem brace_mem_print (members : List (String × Json)) : '}' ∈ Json.print (.obj members) := by
  cases members with
  | nil => exact List.mem_cons_of_mem _ List.mem_cons_self
  | cons m members => exact List.mem_cons_of_mem _ (List.mem_append_right _ (brace_mem_printMoreMembers members))

/-- A bracket or a brace in a value's text leaves a letter in its payload that no number holds. -/
theorem not_misread_of_closing {c : Char} (hc : c = ']' ∨ c = '}') (hmem : c ∈ Json.print v) :
    ¬CoreSchema.Misread (hexOf upper v) := by
  have hletter : ∀ upper, (Hex.digit upper 13).isDigit = false ∧
      ¬(Hex.digit upper 13 = 'e' ∨ Hex.digit upper 13 = 'E') := by decide
  have hbyte : ∃ b : UInt8, b ∈ String.utf8EncodeChar c ∧ b.toNat % 16 = 13 := by
    rcases hc with rfl | rfl
    · exact ⟨0x5d, by decide, rfl⟩
    · exact ⟨0x7d, by decide, rfl⟩
  obtain ⟨b, hb, hlast⟩ := hbyte
  have hbytes : b ∈ v.compact.toByteArray.toList := by
    rw [Json.bytes_compact]
    exact List.mem_flatMap_of_mem hmem hb
  have hdigit := Hex.mem_encodeIn upper hbytes
  rw [hlast] at hdigit
  exact CoreSchema.not_misread_of_mem hdigit (hletter upper).1 (hletter upper).2

/-- Arrays and objects are always decoded. -/
theorem decode_collection (hv : v.Plain)
    (hcollection : (∃ items, v = .arr items) ∨ ∃ members, v = .obj members) : decode (renderHex upper v) = .ok v := by
  refine decode_of_not_misread hv ?_
  rcases hcollection with ⟨items, rfl⟩ | ⟨members, rfl⟩
  · exact not_misread_of_closing (Or.inl rfl) (bracket_mem_print items)
  · exact not_misread_of_closing (Or.inr rfl) (brace_mem_print members)

/-! ### All values -/

/-- A hexadecimal payload is decoded to what was rendered, unless YAML takes it for a number whose text is another
one, and then it is refused. Arrays and objects are always decoded. -/
theorem decode_renderHex (upper : Bool) {v : Json} (hvalid : v.Valid) (hintegral : v.Integral)
    (hdepth : v.depth < 128) :
    (¬CoreSchema.Misread (hexOf upper v) → decode (renderHex upper v) = .ok v) ∧
      (CoreSchema.Misread (hexOf upper v) →
        decode (renderHex upper v) = .error (.transcript (.unreadable (renderHex upper v))) ∨
          decode (renderHex upper v) = .error (.transcript .badHex)) ∧
      ((∃ items, v = .arr items) ∨ (∃ members, v = .obj members) → decode (renderHex upper v) = .ok v) := by
  have hplain : v.Plain := ⟨hvalid, hintegral, Nat.le_of_lt_succ hdepth⟩
  exact ⟨decode_of_not_misread hplain, decode_of_misread hplain, decode_collection hplain⟩

/-- A number of two digits and a list are decoded; a text of one character is refused, as its payload is a power of
ten. -/
theorem decode_renderHex_short :
    ((Json.int 12).Valid ∧ (Json.int 12).Integral ∧ (Json.int 12).depth < 128 ∧
      decode (renderHex false (.int 12)) = .ok (.int 12)) ∧
    ((Json.arr [.str "^"]).Valid ∧ (Json.arr [.str "^"]).Integral ∧ (Json.arr [.str "^"]).depth < 128 ∧
      decode (renderHex true (.arr [.str "^"])) = .ok (.arr [.str "^"])) ∧
    (Json.str "^").Valid ∧ (Json.str "^").Integral ∧ (Json.str "^").depth < 128 ∧
      (decode (renderHex true (.str "^")) = .error (.transcript (.unreadable (renderHex true (.str "^")))) ∨
        decode (renderHex true (.str "^")) = .error (.transcript .badHex)) := by
  have hint : (Json.int 12).Valid := (by decide : Json.InRange 12)
  have hlist : (Json.arr [.str "^"]).Valid := ⟨trivial, trivial⟩
  have htext : (Json.str "^").Valid := trivial
  have hdigits : ¬CoreSchema.Misread (hexOf false (.int 12)) := by decide +kernel
  have hpower : CoreSchema.Misread (hexOf true (.str "^")) := by decide +kernel
  refine ⟨⟨hint, trivial, by decide, ?_⟩, ⟨hlist, ⟨trivial, trivial⟩, by decide, ?_⟩, htext, trivial, by decide, ?_⟩
  · exact (decode_renderHex false hint trivial (by decide)).1 hdigits
  · exact (decode_renderHex true hlist ⟨trivial, trivial⟩ (by decide)).2.2 (Or.inl ⟨_, rfl⟩)
  · exact (decode_renderHex true htext trivial (by decide)).2.1 hpower

/-- A number of ten digits is not decoded, although it is well within the range. -/
theorem long_number_refused :
    (Json.int 1234567890).Valid ∧ (Json.int 1234567890).Integral ∧ (Json.int 1234567890).depth < 128 ∧
      hexOf false (.int 1234567890) = "31323334353637383930".toList ∧
        decode (renderHex false (.int 1234567890)) ≠ .ok (.int 1234567890) := by
  have hint : (Json.int 1234567890).Valid := (by decide : Json.InRange 1234567890)
  have hplain : (Json.int 1234567890).Plain := ⟨hint, trivial, by decide⟩
  have hmisread : CoreSchema.Misread (hexOf false (.int 1234567890)) := by decide +kernel
  refine ⟨hint, trivial, by decide, by decide +kernel, fun hok => ?_⟩
  rcases decode_of_misread hplain hmisread with herror | herror <;>
    exact absurd (hok.symm.trans herror) (fun h => nomatch h)

end ClusterKeeper.Transcript
