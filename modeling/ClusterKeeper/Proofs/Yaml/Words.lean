import ClusterKeeper.Proofs.Text.Characters
import ClusterKeeper.Yaml.Token

/-!
Words as plain scalars. A word is made of letters, digits and the three other characters of base64 text
(`isPlain`); none of them means anything to the syntax, so a word ends where it is seen to end. Main
statements: `plainScalar_word` and `plainScalar_line`.
-/

namespace ClusterKeeper.Yaml

open Text (ne_of_test toNat_of_isAlpha toNat_of_isDigit)

/-! ### Plain characters -/

/-- A character that means nothing to the syntax. -/
def isPlain (c : Char) : Bool := c.isAlphanum || c == '+' || c == '/' || c == '='

/-- A text that is one word. -/
structure IsWord (w : List Char) : Prop where
  ne_nil : w ≠ []
  plain : ∀ c ∈ w, isPlain c

theorem isBlank_of_isPlain {c : Char} (hc : isPlain c) : isBlank c = false := by
  simp [isBlank, ne_of_test hc (by decide : isPlain ' ' = false),
    ne_of_test hc (by decide : isPlain '\t' = false)]

theorem isBreak_of_isPlain {c : Char} (hc : isPlain c) : isBreak c = false := by
  simp [isBreak, ne_of_test hc (by decide : isPlain '\n' = false),
    ne_of_test hc (by decide : isPlain '\r' = false),
    ne_of_test hc (by decide : isPlain '\x85' = false),
    ne_of_test hc (by decide : isPlain '\u2028' = false),
    ne_of_test hc (by decide : isPlain '\u2029' = false)]

theorem isIndicator_of_isPlain {c : Char} (hc : isPlain c) : TokenReader.isIndicator c = false := by
  have hlist : "-?:,[]#&*!|>'\"%@`".toList.all fun d => !isPlain d := by decide
  rw [TokenReader.isIndicator, Bool.or_eq_false_iff, Bool.or_eq_false_iff, beq_eq_false_iff_ne,
    beq_eq_false_iff_ne, List.contains_eq_mem, decide_eq_false_iff_not]
  refine ⟨⟨ne_of_test hc (by decide), ne_of_test hc (by decide)⟩, fun hmem => ?_⟩
  have hother := List.all_eq_true.1 hlist c hmem
  rw [hc] at hother
  exact absurd hother (by decide)

theorem isAllowed_of_isPlain {c : Char} (hc : isPlain c) : isAllowed c := by
  simp only [isAllowed, Bool.or_eq_true, Bool.and_eq_true, decide_eq_true_eq]
  refine Or.inl (Or.inl (Or.inl (Or.inl (Or.inr ?_))))
  simp only [isPlain, Char.isAlphanum, Bool.or_eq_true, beq_iff_eq] at hc
  rcases hc with (((hc | hc) | rfl) | rfl) | rfl
  · have := toNat_of_isAlpha hc
    omega
  · have := toNat_of_isDigit hc
    omega
  · decide
  · decide
  · decide

/-! ### The text of a word -/

/-- What may follow a word: nothing, a break, or a colon before a blank. -/
def EndsWord (cs : List Char) : Prop := plainPart false cs = some []

theorem endsWord_nil : EndsWord [] := rfl

theorem endsWord_break (cs : List Char) : EndsWord ('\n' :: cs) := rfl

theorem endsWord_colon (cs : List Char) : EndsWord (':' :: ' ' :: cs) := rfl

theorem plainPart_word {w rest : List Char} (hw : ∀ c ∈ w, isPlain c) (hrest : EndsWord rest) :
    plainPart false (w ++ rest) = some w := by
  induction w with
  | nil => exact hrest
  | cons c w ih =>
    have hc := hw c List.mem_cons_self
    have hcolon : (c == ':') = false := beq_false_of_ne (ne_of_test hc (by decide))
    rw [List.cons_append, plainPart, isBlank_of_isPlain hc, isBreak_of_isPlain hc, hcolon,
      ih fun d hd => hw d (List.mem_cons_of_mem _ hd)]
    rfl

theorem not_atDocumentMark {c : Char} (hc : isPlain c) (cs : List Char) :
    atDocumentMark (c :: cs) = false := by
  rw [atDocumentMark.eq_def]
  split
  next h =>
    exact absurd (List.cons.inj h).1 (ne_of_test hc (by decide))
  next h =>
    exact absurd (List.cons.inj h).1 (ne_of_test hc (by decide))
  next => rfl

/-- A word neither marks a document nor begins a comment. -/
theorem word_continues {w : List Char} (hw : IsWord w) (rest : List Char) (k : Nat) :
    ((k == 0 && atDocumentMark (w ++ rest)) || nextIs (· == '#') (w ++ rest)) = false := by
  obtain ⟨hne, hplain⟩ := hw
  cases w with
  | nil => exact absurd rfl hne
  | cons c w =>
    have hc := hplain c List.mem_cons_self
    rw [List.cons_append, not_atDocumentMark hc, Bool.and_false, Bool.false_or]
    exact beq_false_of_ne (ne_of_test hc (by decide))

/-- A word that a colon or the end of the text follows. -/
theorem plainScalar_word {w rest : List Char} (hw : IsWord w) (hrest : EndsWord rest)
    (hgap : nextIs (fun b => isBlank b || isBreak b) rest = false) (indent i l k : Nat) :
    plainScalar false indent ⟨w ++ rest, i, l, k⟩ =
      some (w, false, ⟨rest, i + w.length, l, k + w.length⟩) := by
  rw [plainScalar, plainMore]
  simp only [word_continues hw, plainPart_word hw.plain hrest, Cursor.advance, List.drop_left,
    if_neg hw.ne_nil, hgap]
  rfl

/-- A word at the end of a line, before a line that starts with a word too. -/
theorem plainScalar_line {w : List Char} {d : Char} (hw : IsWord w) (hd : isPlain d)
    (rest : List Char) (indent i l k : Nat) :
    plainScalar false (indent + 1) ⟨w ++ '\n' :: d :: rest, i, l, k⟩ =
      some (w, true, ⟨d :: rest, i + w.length + 1, l + 1, 0⟩) := by
  have htake : Gap.none.take (indent + 1) (rest.length + 2)
      ⟨'\n' :: d :: rest, i + w.length, l, k + w.length⟩ =
        some (⟨[], ['\n'], [], true⟩, ⟨d :: rest, i + w.length + 1, l + 1, 0⟩) := by
    show Gap.take (indent + 1) (rest.length + 1) ⟨[], ['\n'], [], true⟩
      ⟨d :: rest, i + w.length + 1, l + 1, 0⟩ = _
    rw [Gap.take]
    simp only [isBlank_of_isPlain hd, isBreak_of_isPlain hd]
    rfl
  rw [plainScalar, plainMore]
  simp only [word_continues hw, plainPart_word hw.plain (endsWord_break (d :: rest)),
    Cursor.advance, List.drop_left, if_neg hw.ne_nil, List.length_cons]
  rw [htake]
  rfl

end ClusterKeeper.Yaml
