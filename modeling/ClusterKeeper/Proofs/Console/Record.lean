import ClusterKeeper.Console.Transcript
import ClusterKeeper.Proofs.Yaml.TwoLines

/-!
The framing of a transcript and what is left when it is taken off: the two lines of its record,
whatever blanks stand before the payload's key and whether or not the last line is ended. Nothing of
the payload is lost with the framing, since a payload is a word (`IsWord`). Main statements: `unframed`
and `Record.ofText?_twoLines`.
-/

namespace ClusterKeeper.Transcript

open Yaml

/-- The text of a flag. -/
def flag (ok : Bool) : List Char := if ok then ['t', 'r', 'u', 'e'] else ['f', 'a', 'l', 's', 'e']

/-- A transcript whose payload stands under a key behind some indentation, with or without a break at
its end. -/
def framed (ok : Bool) (indent key payload : List Char) (closed : Bool) : List Char :=
  "---\n- ".toList ++ ("ok: ".toList ++ flag ok ++ '\n' ::
    (indent ++ key ++ ':' :: ' ' :: payload ++ ("\n...".toList ++ if closed then ['\n'] else [])))

/-- A framing with two blanks before the key and a break at its end, as a text around the payload. -/
theorem ofList_framed {ok : Bool} {key : List Char} (front : String)
    (hfront : front.toList =
      "---\n- ".toList ++ ("ok: ".toList ++ flag ok ++ '\n' :: ([' ', ' '] ++ key ++ [':', ' '])))
    (payload : List Char) :
    front ++ String.ofList payload ++ "\n...\n" = String.ofList (framed ok [' ', ' '] key payload true) := by
  have hclosing : "\n...\n".toList = "\n...".toList ++ ['\n'] := by decide
  have happend : ∀ a b c : String, (a ++ b ++ c).toList = a.toList ++ b.toList ++ c.toList := by
    intro a b c
    simp only [String.toList_append]
  have htext : (String.ofList payload).toList = payload := String.toList_ofList
  have hframed : (String.ofList (framed ok [' ', ' '] key payload true)).toList =
      framed ok [' ', ' '] key payload true := String.toList_ofList
  apply String.toList_injective
  refine (happend _ (String.ofList payload) _).trans ?_
  rw [hfront, hclosing, htext, hframed]
  unfold framed
  -- the texts around the payload are the same on both sides, whatever their characters are
  generalize "---\n- ".toList = opening
  generalize "ok: ".toList = flagKey
  generalize "\n...".toList = closing
  simp only [List.append_assoc, List.cons_append, List.nil_append, if_true]

/-! ### The opening -/

/-- A text without a dash opens no list. -/
theorem withoutOpening_of_no_dash {cs : List Char} (h : '-' ∉ cs) (lineStart : Bool) :
    withoutOpening lineStart cs = cs := by
  induction cs generalizing lineStart with
  | nil => rw [withoutOpening]
  | cons c cs ih =>
    rw [List.mem_cons, not_or] at h
    rw [withoutOpening.eq_def]
    split
    next heq => exact absurd (List.cons.inj heq).1.symm h.1
    next heq =>
      obtain ⟨rfl, rfl⟩ := List.cons.inj heq
      rw [ih h.2]
    next heq => exact absurd heq (List.cons_ne_nil c cs)

theorem withoutOpening_opening {cs : List Char} (h : '-' ∉ cs) :
    withoutOpening true ("---\n- ".toList ++ cs) = cs := by
  show withoutOpening true ('-' :: '-' :: '-' :: '\n' :: '-' :: ' ' :: cs) = cs
  rw [withoutOpening]
  exact withoutOpening_of_no_dash h _

/-! ### Short lines -/

theorem withoutShortLines_line {l : List Char} (h : '\n' ∉ l) (rest : List Char) :
    withoutShortLines (l ++ rest) = l ++ withoutShortLines rest := by
  induction l with
  | nil => rfl
  | cons c l ih =>
    rw [List.mem_cons, not_or] at h
    rw [List.cons_append, withoutShortLines.eq_def]
    split
    next heq => exact absurd (List.cons.inj heq).1.symm h.1
    next heq =>
      obtain ⟨rfl, rfl⟩ := List.cons.inj heq
      rw [ih h.2]
      rfl
    next heq => exact absurd heq (List.cons_ne_nil c _)

/-- A line of more than three characters stays. -/
theorem withoutShortLines_longLine {l : List Char} (h : '\n' ∉ l) (hlong : 4 ≤ l.length)
    (rest : List Char) :
    withoutShortLines ('\n' :: (l ++ rest)) = '\n' :: (l ++ withoutShortLines rest) := by
  rw [← withoutShortLines_line h rest]
  match l, hlong with
  | a :: b :: c :: d :: l, _ =>
    have hd : (d == '\n') = false := by
      refine beq_false_of_ne fun heq => h ?_
      rw [heq]
      simp
    show withoutShortLines ('\n' :: a :: b :: c :: d :: (l ++ rest)) = _
    rw [withoutShortLines.eq_def]
    simp only [atLineEnd, hd, Bool.and_false]
    rfl

theorem withoutShortLines_closing (closed : Bool) :
    withoutShortLines ("\n...".toList ++ if closed then ['\n'] else []) = [] := by
  cases closed with
  | false =>
    show withoutShortLines ['\n', '.', '.', '.'] = []
    simp [withoutShortLines, atLineEnd, inLine]
  | true =>
    show withoutShortLines ['\n', '.', '.', '.', '\n'] = []
    simp [withoutShortLines, atLineEnd, inLine]

/-! ### The payload's key -/

theorem withoutIndentation_line {l : List Char} (h : '\n' ∉ l) (rest : List Char) :
    withoutIndentation (l ++ rest) = l ++ withoutIndentation rest := by
  induction l with
  | nil => rfl
  | cons c l ih =>
    rw [List.mem_cons, not_or] at h
    have hc : (c == '\n') = false := beq_false_of_ne fun heq => h.1 heq.symm
    rw [List.cons_append, withoutIndentation]
    simp only [hc, Bool.false_and, ih h.2]
    rfl

theorem withoutIndentation_of_no_break {l : List Char} (h : '\n' ∉ l) : withoutIndentation l = l := by
  have := withoutIndentation_line h []
  rw [List.append_nil] at this
  rw [this, withoutIndentation, List.append_nil]

/-- A payload's key is put at the start of its line. -/
theorem withoutIndentation_key {indent key : List Char} (hindent : ∀ c ∈ indent, Text.isBlank c)
    (hkey : key = "res".toList ∨ key = "hex".toList) (rest : List Char) :
    withoutIndentation ('\n' :: (indent ++ key ++ ':' :: rest)) =
      '\n' :: (key ++ ':' :: withoutIndentation rest) := by
  have htrim : Text.trimLeft (indent ++ key ++ ':' :: rest) = key ++ ':' :: rest := by
    rw [Text.trimLeft, List.append_assoc, List.dropWhile_append_of_pos hindent]
    rcases hkey with rfl | rfl <;> rfl
  have hfound : payloadKeys.any (·.isPrefixOf (key ++ ':' :: rest)) := by
    rcases hkey with rfl | rfl <;> rfl
  rw [withoutIndentation]
  simp only [htrim, hfound]
  rcases hkey with rfl | rfl <;> rfl

/-! ### The whole framing -/

/-- A line as it may stand in a transcript. -/
def IsLine (l : List Char) : Prop := '-' ∉ l ∧ '\n' ∉ l

theorem IsLine.append {l m : List Char} (hl : IsLine l) (hm : IsLine m) : IsLine (l ++ m) :=
  ⟨List.not_mem_append hl.1 hm.1, List.not_mem_append hl.2 hm.2⟩

theorem isLine_of_isWord {w : List Char} (hw : IsWord w) : IsLine w := by
  constructor
  · exact fun hmem => Text.ne_of_test (hw.plain _ hmem) (by decide) rfl
  · exact fun hmem => Text.ne_of_test (hw.plain _ hmem) (by decide) rfl

/-- The marks around the two lines of a record are taken off, and nothing else. -/
theorem withoutMarks_lines {l m : List Char} (hl : IsLine l) (hm : IsLine m) (hlong : 4 ≤ m.length)
    (closed : Bool) :
    withoutShortLines (withoutOpening true ("---\n- ".toList ++ (l ++ '\n' ::
      (m ++ ("\n...".toList ++ if closed then ['\n'] else []))))) = l ++ '\n' :: m := by
  have hclosing : '-' ∉ "\n...".toList ++ if closed then ['\n'] else [] := by
    cases closed <;> decide
  have hdash := List.not_mem_append hl.1
    (List.not_mem_cons_of_ne_of_not_mem (by decide : '-' ≠ '\n') (List.not_mem_append hm.1 hclosing))
  rw [withoutOpening_opening hdash, withoutShortLines_line hl.2, withoutShortLines_longLine hm.2 hlong,
    withoutShortLines_closing, List.append_nil]

/-- What is left of a transcript are the lines of its record. -/
theorem unframed (ok closed : Bool) {indent key payload : List Char}
    (hindent : ∀ c ∈ indent, c = ' ' ∨ c = '\t') (hkey : key = "res".toList ∨ key = "hex".toList)
    (hpayload : IsWord payload) :
    withoutIndentation (withoutShortLines
      (withoutOpening true (framed ok indent key payload closed))) =
      twoLines "ok".toList (flag ok) key payload := by
  have hflag : IsLine ("ok: ".toList ++ flag ok) := by
    cases ok <;> exact ⟨by decide, by decide⟩
  have hindent' : IsLine indent := by
    constructor
    · intro hmem
      rcases hindent _ hmem with h | h <;> exact absurd h (by decide)
    · intro hmem
      rcases hindent _ hmem with h | h <;> exact absurd h (by decide)
  have hkey' : IsLine (key ++ [':', ' ']) := by
    rcases hkey with rfl | rfl <;> exact ⟨by decide, by decide⟩
  have hline := (hindent'.append hkey').append (isLine_of_isWord hpayload)
  have hlong : 4 ≤ (indent ++ (key ++ [':', ' ']) ++ payload).length := by
    have hlength : key.length = 3 := by rcases hkey with rfl | rfl <;> rfl
    simp only [List.length_append, List.length_cons]
    omega
  have hblank : ∀ c ∈ indent, Text.isBlank c := by
    intro c hc
    rcases hindent c hc with rfl | rfl <;> rfl
  have hassoc : indent ++ (key ++ [':', ' ']) ++ payload = indent ++ key ++ ':' :: ' ' :: payload := by
    simp
  have hpayload' : '\n' ∉ ' ' :: payload :=
    List.not_mem_cons_of_ne_of_not_mem (by decide) (isLine_of_isWord hpayload).2
  rw [hassoc] at hline hlong
  have hlines : withoutIndentation ("ok: ".toList ++ flag ok ++ '\n' ::
      (indent ++ key ++ ':' :: ' ' :: payload)) =
        "ok: ".toList ++ flag ok ++ '\n' :: (key ++ ':' :: ' ' :: payload) := by
    rw [withoutIndentation_line hflag.2, withoutIndentation_key hblank hkey,
      withoutIndentation_of_no_break hpayload']
  exact (congrArg withoutIndentation (withoutMarks_lines hflag hline hlong closed)).trans hlines

/-! ### The record -/

namespace Record

theorem take_ok (doc : Document) (ok : Bool) :
    take doc ⟨none, none, none⟩
      (.scalar none .plain "ok", .scalar none .plain (String.ofList (flag ok))) =
        pure ⟨some ok, none, none⟩ := by
  have hbool := doc.bool_plain (by cases ok <;> rfl :
    CoreSchema.bool? (String.ofList (flag ok)) = some ok)
  rw [take, Document.keyText_plain, pure_bind]
  show (doc.bool _ >>= fun b => pure (⟨some b, none, none⟩ : Draft)) = _
  rw [hbool, pure_bind]

/-- A draft with a payload under its key. -/
def Draft.holding (key : List Char) (ok : Option Bool) (d : Datum) : Draft :=
  if key = "hex".toList then ⟨ok, none, some (some d)⟩ else ⟨ok, some (some d), none⟩

/-- A record with a payload under its key. -/
def holding (key : List Char) (ok : Bool) (text : Option String) : Record :=
  if key = "hex".toList then ⟨ok, none, text⟩ else ⟨ok, text, none⟩

theorem take_payload (doc : Document) (ok : Option Bool) {key : List Char}
    (hkey : key = "res".toList ∨ key = "hex".toList) {s : String}
    (hpresent : Document.saysAbsent none .plain s = some false) :
    take doc ⟨ok, none, none⟩ (.scalar none .plain (String.ofList key), .scalar none .plain s) =
      StateT.lift (Document.scalarDatum? (CoreSchema.resolve s)) >>= fun d => pure (Draft.holding key ok d) := by
  have hdatum := doc.optionalDatum_plain (depthLimit - 1) hpresent
  rcases hkey with rfl | rfl
  · rw [take, Document.keyText_plain, pure_bind]
    show (doc.optionalDatum _ _ >>= fun v => pure (⟨ok, some v, none⟩ : Draft)) = _
    rw [hdatum, bind_assoc]
    rfl
  · rw [take, Document.keyText_plain, pure_bind]
    show (doc.optionalDatum _ _ >>= fun v => pure (⟨ok, none, some v⟩ : Draft)) = _
    rw [hdatum, bind_assoc]
    rfl

/-- The record of two lines: the flag, and the text that the payload is read as, if it is read. -/
theorem ofText?_twoLines (ok : Bool) {key payload : List Char}
    (hkey : key = "res".toList ∨ key = "hex".toList) (hpayload : IsWord payload)
    (hpresent : Document.saysAbsent none .plain (String.ofList payload) = some false) :
    ofText? (String.ofList (twoLines "ok".toList (flag ok) key payload)) =
      (Document.scalarDatum? (CoreSchema.resolve (String.ofList payload))).map fun d =>
        some (holding key ok (payloadText d)) := by
  have hok : IsWord "ok".toList := ⟨by decide, List.all_eq_true.1 (by decide)⟩
  have hkey' : IsWord key := by
    rcases hkey with rfl | rfl <;> exact ⟨by decide, List.all_eq_true.1 (by decide)⟩
  have hflag : IsWord (flag ok) := by
    cases ok <;> exact ⟨by decide, List.all_eq_true.1 (by decide)⟩
  have hlength : key.length ≤ TokenReader.longestKey := by
    rcases hkey with rfl | rfl <;> decide
  obtain ⟨doc, hdoc, hroot⟩ := Document.ofText?_twoLines hok hflag hkey' hpayload
    (by omega : 2 ≤ 1024) hlength
  have hdocument : ofDocument doc =
      StateT.lift (Document.scalarDatum? (CoreSchema.resolve (String.ofList payload))) >>= fun d =>
        pure (some (holding key ok (payloadText d))) := by
    have htarget : doc.target doc.root = pure doc.root := by rw [hroot]; rfl
    have hdraft : ∀ d, (Draft.holding key (some ok) d).ok = some ok ∧
        (⟨ok, (Draft.holding key (some ok) d).res.join.bind payloadText,
          (Draft.holding key (some ok) d).hex.join.bind payloadText⟩ : Record) =
            holding key ok (payloadText d) := by
      intro d
      rcases hkey with rfl | rfl <;> exact ⟨rfl, rfl⟩
    rw [ofDocument, htarget, pure_bind, hroot, String.ofList_toList]
    simp only [List.foldlM_cons, List.foldlM_nil, take_ok, take_payload doc (some ok) hkey hpresent,
      pure_bind, bind_assoc, bind_pure, (hdraft _).1, (hdraft _).2]
  rw [ofText?, hdoc]
  simp only [hdocument]
  cases Document.scalarDatum? (CoreSchema.resolve (String.ofList payload)) <;> rfl

end Record

end ClusterKeeper.Transcript
