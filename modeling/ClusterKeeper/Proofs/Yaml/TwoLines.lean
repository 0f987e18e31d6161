import ClusterKeeper.Proofs.Yaml.Words
import ClusterKeeper.Yaml.Document

/-!
Block mappings of two entries whose keys and values are words, one on each line. Each token has a lemma
that says what reading it does, an entry's tokens are those of its parts, and the document is what they
describe. Main statements: `Document.ofText?_twoLines` and `Document.datum_plain`.
-/

namespace ClusterKeeper.Yaml

/-! ### Between tokens -/

namespace TokenReader

/-- A character at which a gap ends. -/
def EndsGap (c : Char) : Prop :=
  isBlank c = false ∧ isBreak c = false ∧ c ≠ '#' ∧ c ≠ byteOrderMark

theorem endsGap_of_isPlain {c : Char} (hc : isPlain c) : EndsGap c :=
  ⟨isBlank_of_isPlain hc, isBreak_of_isPlain hc, Text.ne_of_test hc (by decide),
    Text.ne_of_test hc (by decide)⟩

/-- No gap is skipped before a token. -/
theorem skipGap_none {r : TokenReader} {c : Char} {rest : List Char} (hr : r.cursor.rest = c :: rest)
    (hc : EndsGap c) (fuel : Nat) : r.skipGap (fuel + 1) = r := by
  obtain ⟨⟨_, i, l, k⟩, _, _, _, _, _, _, _⟩ := r
  obtain rfl : _ = c :: rest := hr
  obtain ⟨hblank, hbreak, hcomment, hmark⟩ := hc
  obtain ⟨hspace, htab⟩ : c ≠ ' ' ∧ c ≠ '\t' := by simpa [isBlank] using hblank
  simp [skipGap, nextIs, Cursor.skipWhile, Cursor.takeWhile, Cursor.advance, hspace, htab, hbreak,
    hcomment, hmark]

/-- The blank before a value is skipped. -/
theorem skipGap_blank {r : TokenReader} {c : Char} {rest : List Char}
    (hr : r.cursor.rest = ' ' :: c :: rest) (hc : EndsGap c) (fuel : Nat) :
    r.skipGap (fuel + 1) = r.advance 1 := by
  obtain ⟨⟨_, i, l, k⟩, _, _, _, _, _, _, _⟩ := r
  obtain rfl : _ = ' ' :: c :: rest := hr
  obtain ⟨hblank, hbreak, hcomment, hmark⟩ := hc
  obtain ⟨hspace, htab⟩ : c ≠ ' ' ∧ c ≠ '\t' := by simpa [isBlank] using hblank
  simp [skipGap, nextIs, Cursor.skipWhile, Cursor.takeWhile, Cursor.advance, hspace, htab, hbreak,
    hcomment, byteOrderMark, advance]

theorem skipGap_end {r : TokenReader} (hr : r.cursor.rest = []) (fuel : Nat) :
    r.skipGap (fuel + 1) = r := by
  obtain ⟨⟨_, i, l, k⟩, _, _, _, _, _, _, _⟩ := r
  obtain rfl : _ = [] := hr
  simp [skipGap, nextIs, Cursor.skipWhile, Cursor.takeWhile, Cursor.advance]

/-- No block is closed that is not indented further. -/
theorem closeBlocks_of_le {r : TokenReader} {column : Int} (h : r.indent ≤ column) :
    r.closeBlocks column = r := by
  rw [closeBlocks]
  cases r.outer with
  | nil => exact ite_self r
  | cons i is =>
    rw [closeBlocks.go, if_neg (Int.not_lt.2 h)]
    exact ite_self r

/-- One turn of the loop: the gap is skipped, and then a token taken. -/
theorem run_token {r s : TokenReader} {c : Char} {rest : List Char} (fuel : Nat)
    (hgap : r.skipGap (r.cursor.rest.length + 1) = s) (hstale : s.dropStale = some s)
    (hclose : s.closeBlocks (Int.ofNat s.cursor.column) = s) (hs : s.cursor.rest = c :: rest) :
    r.run (fuel + 1) = (s.takeToken c rest).bind (run fuel) := by
  rw [run, hgap, hstale]
  simp only [Option.bind_eq_bind, Option.bind_some, hclose, hs]

/-- The last turn of the loop: nothing is left to read. -/
theorem run_end {r : TokenReader} (fuel : Nat) (hr : r.cursor.rest = [])
    (hstale : r.dropStale = some r) (hclose : r.indent ≤ Int.ofNat r.cursor.column) :
    r.run (fuel + 1) = r.finish := by
  rw [run, skipGap_end hr, hstale]
  simp only [Option.bind_eq_bind, Option.bind_some, closeBlocks_of_le hclose, hr]

/-! ### The tokens of an entry -/

theorem takeToken_plain {c : Char} (hc : isPlain c) (rest : List Char) (r : TokenReader) :
    r.takeToken c rest = r.takePlain := by
  have hlist : ['%', '-', '.', '[', '{', ']', '}', ',', '?', ':', '*', '&', '!', '|', '>', '\'',
      '"'].all fun d => !isPlain d := by decide
  have hother := fun d hd =>
    Text.ne_of_test hc ((Bool.not_eq_true' _).mp (List.all_eq_true.1 hlist d hd))
  simp only [List.forall_mem_cons] at hother
  simp [takeToken, hother, startsPlain, isBlank_of_isPlain hc, isBreak_of_isPlain hc,
    isIndicator_of_isPlain hc]

/-- Reading a plain scalar, by its place and its text. -/
theorem takePlain_eq {r s : TokenReader} {text : List Char} {broken : Bool} {c : Cursor}
    (hplace : r.savePlace = some s)
    (htext : plainScalar (!s.inBlock) (s.indent + 1).toNat s.cursor = some (text, broken, c)) :
    r.takePlain = some (({ s with cursor := c, keyAllowed := broken } : TokenReader).push
      (.scalar .plain (String.ofList text))) := by
  rw [takePlain, hplace]
  simp only [Option.bind_eq_bind, Option.bind_some, htext]
  rfl

/-- Where an entry begins; the first one opens its mapping. -/
def atEntry (first : Bool) (read : List Token) (cs : List Char) (i l : Nat) : TokenReader where
  cursor := ⟨cs, i, l, 0⟩
  read := read
  indent := if first then -1 else 0
  outer := if first then [] else [-1]
  flowDepth := 0
  keyAllowed := true
  place := none
  outerPlaces := []

/-- After an entry's key. -/
def atColon (first : Bool) (read : List Token) (key cs : List Char) (i l : Nat) : TokenReader where
  cursor := ⟨cs, i + key.length, l, key.length⟩
  read := .scalar .plain (String.ofList key) :: read
  indent := if first then -1 else 0
  outer := if first then [] else [-1]
  flowDepth := 0
  keyAllowed := false
  place := some ⟨!first, read.length, i, l, 0⟩
  outerPlaces := []

/-- After an entry's colon. -/
def atValue (read : List Token) (cs : List Char) (i l k : Nat) : TokenReader where
  cursor := ⟨cs, i, l, k⟩
  read := read
  indent := 0
  outer := [-1]
  flowDepth := 0
  keyAllowed := false
  place := none
  outerPlaces := []

theorem run_key {key : List Char} (hkey : IsWord key) (first : Bool) (read : List Token)
    (cs : List Char) (i l fuel : Nat) :
    (atEntry first read (key ++ ':' :: ' ' :: cs) i l).run (fuel + 1) =
      (atColon first read key (':' :: ' ' :: cs) i l).run fuel := by
  have htext := plainScalar_word hkey (endsWord_colon cs) rfl
    ((atEntry first read (key ++ ':' :: ' ' :: cs) i l).indent + 1).toNat i l 0
  rw [Nat.zero_add] at htext
  obtain ⟨c, w, rfl⟩ := List.exists_cons_of_ne_nil hkey.ne_nil
  have hc := hkey.plain c List.mem_cons_self
  have hplace : (atEntry first read (c :: w ++ ':' :: ' ' :: cs) i l).savePlace =
      some { atEntry first read (c :: w ++ ':' :: ' ' :: cs) i l with
        place := some ⟨!first, read.length, i, l, 0⟩ } := by
    cases first <;> rfl
  rw [run_token fuel (skipGap_none rfl (endsGap_of_isPlain hc) _) rfl (by cases first <;> rfl) rfl,
    takeToken_plain hc, takePlain_eq hplace htext]
  rfl

theorem insertAt_append {r : TokenReader} (front : List Token) {back : List Token}
    (hr : r.read = front ++ back) (t : Token) :
    r.insertAt back.length t = { r with read := front ++ t :: back } := by
  have hlater : r.read.length - back.length = front.length := by
    rw [hr, List.length_append, Nat.add_sub_cancel]
  rw [insertAt, hlater, hr, List.take_left, List.drop_left]

/-- At a colon, the token of its key is put in and, where needed, that of its mapping. -/
theorem takeValue_eq {r s t : TokenReader} {p : KeyPlace} (hplace : r.place = some p)
    (hkey : r.insertAt p.number .key = s)
    (hopen : s.openBlock p.column (some p.number) .blockMappingStart = t) :
    r.takeValue = some (({ t with place := none, keyAllowed := false }.advance 1).push .value) := by
  rw [takeValue, hplace]
  simp only [hkey, hopen]

/-- After an entry's key, with its mapping open and the token of the key put in. -/
def atKnownKey (first : Bool) (read : List Token) (key cs : List Char) (i l : Nat) : TokenReader :=
  { atColon first read key cs i l with
    read := .scalar .plain (String.ofList key) :: .key ::
      (if first then .blockMappingStart :: read else read)
    indent := 0
    outer := [-1] }

theorem openBlock_atColon (first : Bool) (read : List Token) (key cs : List Char) (i l : Nat) :
    { atColon first read key cs i l with
      read := .scalar .plain (String.ofList key) :: .key :: read : TokenReader }.openBlock 0
        (some read.length) .blockMappingStart = atKnownKey first read key cs i l := by
  cases first with
  | true =>
    exact insertAt_append (r := { atColon true read key cs i l with
        read := .scalar .plain (String.ofList key) :: .key :: read, indent := 0, outer := [-1] })
      [.scalar .plain (String.ofList key), .key] rfl .blockMappingStart
  | false => rfl

theorem takeValue_atColon (first : Bool) (read : List Token) (key cs : List Char) (i l : Nat) :
    (atColon first read key (':' :: ' ' :: cs) i l).takeValue =
      some (atValue (.value :: .scalar .plain (String.ofList key) :: .key ::
        (if first then .blockMappingStart :: read else read)) (' ' :: cs) (i + key.length + 1) l
        (key.length + 1)) := by
  have hkey := insertAt_append (r := atColon first read key (':' :: ' ' :: cs) i l)
    [.scalar .plain (String.ofList key)] rfl .key
  rw [takeValue_eq rfl hkey (openBlock_atColon first read key (':' :: ' ' :: cs) i l)]
  rfl

theorem run_colon {key : List Char} (hlength : key.length ≤ longestKey) (first : Bool)
    (read : List Token) (cs : List Char) (i l fuel : Nat) :
    (atColon first read key (':' :: ' ' :: cs) i l).run (fuel + 1) =
      (atValue (.value :: .scalar .plain (String.ofList key) :: .key ::
        (if first then .blockMappingStart :: read else read)) (' ' :: cs) (i + key.length + 1) l
        (key.length + 1)).run fuel := by
  have hcolon : EndsGap ':' := ⟨rfl, rfl, by decide, by decide⟩
  have hfresh : KeyPlace.isStale ⟨':' :: ' ' :: cs, i + key.length, l, key.length⟩
      ⟨!first, read.length, i, l, 0⟩ = false := by
    simp only [KeyPlace.isStale, Nat.lt_irrefl, decide_false, Bool.false_or, decide_eq_false_iff_not]
    omega
  have hstale : (atColon first read key (':' :: ' ' :: cs) i l).dropStale =
      some (atColon first read key (':' :: ' ' :: cs) i l) := by
    simp only [dropStale, atColon, refresh, hfresh]
    rfl
  have hindent : (atColon first read key (':' :: ' ' :: cs) i l).indent ≤ (key.length : Int) := by
    cases first with
    | true => exact Int.le_trans (by decide : (-1 : Int) ≤ 0) (Int.natCast_nonneg key.length)
    | false => exact Int.natCast_nonneg key.length
  have htoken : (atColon first read key (':' :: ' ' :: cs) i l).takeToken ':' (' ' :: cs) =
      (atColon first read key (':' :: ' ' :: cs) i l).takeValue := by
    simp [takeToken, atGap, orEnd, isBlank]
  rw [run_token fuel (skipGap_none rfl hcolon _) hstale (closeBlocks_of_le hindent) rfl,
    htoken, takeValue_atColon]
  rfl

theorem run_value {v l : List Char} (hv : IsWord v) (hl : IsWord l) (read : List Token)
    (cs : List Char) (i n k fuel : Nat) :
    (atValue read (' ' :: (v ++ '\n' :: (l ++ cs))) i n k).run (fuel + 1) =
      (atEntry false (.scalar .plain (String.ofList v) :: read) (l ++ cs) (i + 1 + v.length + 1)
        (n + 1)).run fuel := by
  obtain ⟨d, u, rfl⟩ := List.exists_cons_of_ne_nil hl.ne_nil
  have htext := plainScalar_line hv (hl.plain d List.mem_cons_self) (u ++ cs) 0 (i + 1) n (k + 1)
  obtain ⟨c, w, rfl⟩ := List.exists_cons_of_ne_nil hv.ne_nil
  have hc := hv.plain c List.mem_cons_self
  have hclose := closeBlocks_of_le
    (r := (atValue read (' ' :: (c :: w ++ '\n' :: (d :: u ++ cs))) i n k).advance 1)
    (Int.natCast_nonneg (k + 1))
  have hplace : ((atValue read (' ' :: (c :: w ++ '\n' :: (d :: u ++ cs))) i n k).advance 1).savePlace =
      some ((atValue read (' ' :: (c :: w ++ '\n' :: (d :: u ++ cs))) i n k).advance 1) := rfl
  rw [run_token fuel (skipGap_blank rfl (endsGap_of_isPlain hc) _) rfl hclose rfl,
    takeToken_plain hc, takePlain_eq hplace htext]
  rfl

theorem run_lastValue {v : List Char} (hv : IsWord v) (read : List Token) (i l k fuel : Nat) :
    ((atValue read (' ' :: v) i l k).run (fuel + 2)).map TokenReader.read =
      some (.blockEnd :: .scalar .plain (String.ofList v) :: read) := by
  have htext := plainScalar_word hv endsWord_nil rfl 1 (i + 1) l (k + 1)
  rw [List.append_nil] at htext
  obtain ⟨c, w, rfl⟩ := List.exists_cons_of_ne_nil hv.ne_nil
  have hc := hv.plain c List.mem_cons_self
  have hclose := closeBlocks_of_le (r := (atValue read (' ' :: c :: w) i l k).advance 1)
    (Int.natCast_nonneg (k + 1))
  have hplace : ((atValue read (' ' :: c :: w) i l k).advance 1).savePlace =
      some ((atValue read (' ' :: c :: w) i l k).advance 1) := rfl
  rw [run_token (fuel + 1) (skipGap_blank rfl (endsGap_of_isPlain hc) _) rfl hclose rfl,
    takeToken_plain hc, takePlain_eq hplace htext, Option.bind_some,
    run_end fuel rfl rfl (Int.natCast_nonneg _)]
  rfl

end TokenReader

/-! ### Two lines -/

/-- The text of a mapping with two entries. -/
def twoLines (k v l w : List Char) : List Char :=
  k ++ ':' :: ' ' :: (v ++ '\n' :: (l ++ ':' :: ' ' :: w))

theorem Token.ofText?_twoLines {k v l w : List Char} (hk : IsWord k) (hv : IsWord v) (hl : IsWord l)
    (hw : IsWord w) (hklength : k.length ≤ TokenReader.longestKey)
    (hllength : l.length ≤ TokenReader.longestKey) :
    Token.ofText? (twoLines k v l w) = some [.blockMappingStart,
      .key, .scalar .plain (String.ofList k), .value, .scalar .plain (String.ofList v),
      .key, .scalar .plain (String.ofList l), .value, .scalar .plain (String.ofList w), .blockEnd] := by
  have hplain : ∀ {u : List Char}, IsWord u → u.all isAllowed := fun hu =>
    List.all_eq_true.2 fun c hc => isAllowed_of_isPlain (hu.plain c hc)
  have hallowed : (twoLines k v l w).all isAllowed := by
    simp only [twoLines, List.all_append, List.all_cons, hplain hk, hplain hv, hplain hl, hplain hw]
    decide
  have hmark : nextIs (· == byteOrderMark) (twoLines k v l w) = false := by
    obtain ⟨c, k, rfl⟩ := List.exists_cons_of_ne_nil hk.ne_nil
    exact beq_false_of_ne (Text.ne_of_test (hk.plain c List.mem_cons_self) (by decide))
  have hrun : ((TokenReader.start (twoLines k v l w)).run ((twoLines k v l w).length + 1)).map
      TokenReader.read = some [.blockEnd, .scalar .plain (String.ofList w), .value,
        .scalar .plain (String.ofList l), .key, .scalar .plain (String.ofList v), .value,
        .scalar .plain (String.ofList k), .key, .blockMappingStart] := by
    obtain ⟨fuel, hfuel⟩ : ∃ fuel, (twoLines k v l w).length + 1 = fuel + 7 := by
      refine ⟨(twoLines k v l w).length - 6, ?_⟩
      have hlength : (twoLines k v l w).length = k.length + v.length + l.length + w.length + 5 := by
        simp only [twoLines, List.length_append, List.length_cons]
        omega
      have hpos := List.length_pos_iff.2 hk.ne_nil
      omega
    have hstart : TokenReader.start (twoLines k v l w) =
        TokenReader.atEntry true [] (twoLines k v l w) 0 0 := rfl
    rw [hfuel, hstart, twoLines, TokenReader.run_key hk, TokenReader.run_colon hklength,
      TokenReader.run_value hv hl, TokenReader.run_key hl, TokenReader.run_colon hllength,
      TokenReader.run_lastValue hw]
    rfl
  rw [Token.ofText?, if_pos hallowed, hmark]
  obtain ⟨r, hr, hread⟩ := Option.map_eq_some_iff.1 hrun
  simp only [Bool.false_eq_true, if_false, hr, Option.map_some, hread]
  rfl

namespace Document

/-- The document of two lines is a mapping of plain scalars. -/
theorem ofText?_twoLines {k v l w : List Char} (hk : IsWord k) (hv : IsWord v) (hl : IsWord l)
    (hw : IsWord w) (hklength : k.length ≤ TokenReader.longestKey)
    (hllength : l.length ≤ TokenReader.longestKey) :
    ∃ doc, ofText? (String.ofList (twoLines k v l w)) = some (some doc) ∧ doc.root = .mapping none
      [(.scalar none .plain (String.ofList k), .scalar none .plain (String.ofList v)),
        (.scalar none .plain (String.ofList l), .scalar none .plain (String.ofList w))] := by
  rw [ofText?, Node.ofText?, String.toList_ofList,
    Token.ofText?_twoLines hk hv hl hw hklength hllength]
  exact ⟨_, rfl, rfl⟩

theorem keyText_plain (doc : Document) (s : String) :
    doc.keyText (.scalar none .plain s) = pure s := rfl

theorem bool_plain (doc : Document) {s : String} {b : Bool} (h : CoreSchema.bool? s = some b) :
    doc.bool (.scalar none .plain s) = pure b := by
  show (StateT.lift (CoreSchema.bool? s) : Loader Bool) = pure b
  rw [h]
  rfl

/-- A plain scalar is what the schema makes of its text. -/
theorem datum_plain (doc : Document) (depth : Nat) (s : String) :
    doc.datum depth (.scalar none .plain s) = StateT.lift (scalarDatum? (CoreSchema.resolve s)) := by
  have hscalar : datumOfScalar none .plain s = StateT.lift (scalarDatum? (CoreSchema.resolve s)) := by
    rw [datumOfScalar]
    show (StateT.lift (scalarDatum? (CoreSchema.resolve s)) >>= fun d => pure (tagDatum none d)) = _
    cases scalarDatum? (CoreSchema.resolve s) <;> rfl
  cases depth with
  | zero => exact hscalar
  | succ depth => exact hscalar

theorem optionalDatum_plain (doc : Document) (depth : Nat) {s : String}
    (hpresent : saysAbsent none .plain s = some false) :
    doc.optionalDatum depth (.scalar none .plain s) =
      StateT.lift (scalarDatum? (CoreSchema.resolve s)) >>= fun d => pure (some d) := by
  have hdatum := datum_plain doc depth s
  show (StateT.lift (saysAbsent none .plain s) >>= fun absent => if absent then pure none
    else doc.datum depth (.scalar none .plain s) >>= fun d => pure (some d)) = _
  rw [hpresent, hdatum]
  rfl

end Document

end ClusterKeeper.Yaml
