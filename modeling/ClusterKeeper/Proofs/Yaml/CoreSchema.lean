import ClusterKeeper.Proofs.Text.Characters
import ClusterKeeper.Yaml.CoreSchema

/-!
Plain scalars that begin with a letter or with a digit other than zero. They have no sign, no base and no zero in
front, so the schema takes them for what their decimal digits write, if anything. A text that begins with a
letter is no number of any kind, so only the words for null and the booleans could still make it something else.
Main statements: `resolve_of_isAlpha` and `resolve_of_isDigit`.
-/

namespace ClusterKeeper.Yaml.CoreSchema

open Text

variable {c : Char}

/-- The words that are not texts. -/
def reservedWords : List String :=
  nullWords ++ ["true", "True", "TRUE"] ++ ["false", "False", "FALSE"]

/-! ### Letters and digits -/

theorem isAlphanum_of_isAlpha (hc : c.isAlpha) : c.isAlphanum := by
  rw [Char.isAlphanum, hc, Bool.true_or]

theorem isAlphanum_of_isDigit (hc : c.isDigit) : c.isAlphanum := by
  rw [Char.isAlphanum, hc, Bool.or_true]

theorem ne_zero_of_isAlpha (hc : c.isAlpha) : c ≠ '0' := ne_of_test hc (by decide)

theorem signOf_of_isAlphanum (hc : c.isAlphanum) (cs : List Char) : signOf (c :: cs) = (none, c :: cs) := by
  rw [signOf.eq_def]
  split
  next h => exact absurd (List.cons.inj h).1 (ne_of_test hc (by decide))
  next h => exact absurd (List.cons.inj h).1 (ne_of_test hc (by decide))
  next => rfl

theorem hasLeadingZero_of_ne_zero (hc : c.isAlphanum) (hzero : c ≠ '0') (cs : List Char) :
    hasLeadingZero (c :: cs) = false := by
  rw [hasLeadingZero, signOf_of_isAlphanum hc]
  split
  next h => exact absurd (List.cons.inj h).1 hzero
  next => rfl

/-- An integer that begins so has no sign and no base. -/
theorem integer?_of_ne_zero (hc : c.isAlphanum) (hzero : c ≠ '0') (cs : List Char) :
    integer? (c :: cs) = (digits? 10 (c :: cs)).map Int.ofNat := by
  have hbase : baseOf? (c :: cs) = none := by
    rw [baseOf?.eq_def]
    split
    next h => exact absurd (List.cons.inj h).1 hzero
    next h => exact absurd (List.cons.inj h).1 hzero
    next h => exact absurd (List.cons.inj h).1 hzero
    next => rfl
  rw [integer?, signOf_of_isAlphanum hc]
  simp only [hbase, hasLeadingZero_of_ne_zero hc hzero]
  rfl

/-- No word is meant that begins otherwise. -/
theorem not_contains_of_head {p : Char → Bool} (hc : p c) (cs : List Char) {words : List String}
    (hwords : words.all fun w => w.toList.head?.all fun d => !p d) :
    words.contains (String.ofList (c :: cs)) = false := by
  rw [List.contains_eq_mem, decide_eq_false_iff_not]
  intro hmem
  have hhead := List.all_eq_true.1 hwords _ hmem
  rw [String.toList_ofList, List.head?_cons, Option.all_some, hc] at hhead
  exact absurd hhead (by decide)

theorem real?_of_isAlphanum (hc : c.isAlphanum) (cs : List Char) :
    real? (String.ofList (c :: cs)) = (decimal? false (c :: cs)).map .finite := by
  rw [real?, not_contains_of_head hc cs (by decide), not_contains_of_head hc cs (by decide),
    not_contains_of_head hc cs (by decide), String.toList_ofList]
  simp only [Bool.false_eq_true, if_false, signOf_of_isAlphanum hc]
  rfl

theorem ofList_cons_ne_empty (c : Char) (cs : List Char) : String.ofList (c :: cs) ≠ "" := fun h =>
  absurd (congrArg String.toList h) (by rw [String.toList_ofList]; exact List.cons_ne_nil c cs)

/-! ### Decimal digits -/

/-- The number that decimal digits write. -/
def number (ds : List Char) : Nat := Nat.ofDigitChars 10 ds 0

theorem toNat_sub_lt (hc : c.isDigit) : c.toNat - '0'.toNat < 10 := by
  have hcode := toNat_of_isDigit hc
  show c.toNat - 48 < 10
  omega

theorem hexValue?_of_isDigit (hc : c.isDigit) : Json.hexValue? c = some (c.toNat - '0'.toNat) := by
  rw [Char.isDigit, Bool.and_eq_true] at hc
  exact if_pos ⟨of_decide_eq_true hc.1, of_decide_eq_true hc.2⟩

theorem hexValue?_of_not_isDigit (hc : c.isDigit = false) :
    Json.hexValue? c = none ∨ ∃ n, Json.hexValue? c = some n ∧ 10 ≤ n := by
  have hdigit : ¬('0' ≤ c ∧ c ≤ '9') := by
    intro h
    have hc' : c.isDigit := by
      rw [Char.isDigit, Bool.and_eq_true]
      exact ⟨decide_eq_true h.1, decide_eq_true h.2⟩
    rw [hc] at hc'
    exact absurd hc' (by decide)
  rw [Json.hexValue?, if_neg hdigit]
  split
  · exact Or.inr ⟨_, rfl, Nat.le_add_left 10 _⟩
  split
  · exact Or.inr ⟨_, rfl, Nat.le_add_left 10 _⟩
  · exact Or.inl rfl

theorem digits?_ten {ds : List Char} (hne : ds ≠ []) (hds : ∀ c ∈ ds, c.isDigit) :
    digits? 10 ds = some (number ds) := by
  rw [digits?, if_neg hne, number]
  clear hne
  generalize 0 = n
  induction ds generalizing n with
  | nil => rfl
  | cons c ds ih =>
    obtain ⟨hc, hds⟩ := List.forall_mem_cons.1 hds
    rw [List.foldlM_cons, hexValue?_of_isDigit hc, Nat.ofDigitChars_cons, Nat.mul_comm 10]
    simp only [Option.bind_eq_bind, Option.bind_some, if_pos (toNat_sub_lt hc)]
    exact ih hds _

/-- A character that is no decimal digit is refused. -/
theorem digits?_eq_none {cs : List Char} (hmem : c ∈ cs) (hc : c.isDigit = false) : digits? 10 cs = none := by
  rw [digits?, if_neg (List.ne_nil_of_mem hmem)]
  generalize 0 = n
  induction cs generalizing n with
  | nil => exact absurd hmem List.not_mem_nil
  | cons d cs ih =>
    rw [List.foldlM_cons]
    obtain rfl | hmem := List.mem_cons.1 hmem
    · rcases hexValue?_of_not_isDigit hc with h | ⟨m, h, hm⟩
      · rw [h]
        rfl
      · rw [h]
        simp [Nat.not_lt.2 hm]
    · cases Json.hexValue? d with
      | none => rfl
      | some m =>
        simp only [Option.bind_eq_bind, Option.bind_some]
        split
        · exact ih hmem _
        · rfl

/-! ### Digits first -/

/-- What begins with a digit is not null. -/
theorem not_null_of_isDigit (hc : c.isDigit) (cs : List Char) :
    ¬(String.ofList (c :: cs) = "" ∨ nullWords.contains (String.ofList (c :: cs))) := by
  rintro (h | h)
  · exact ofList_cons_ne_empty c cs h
  · rw [not_contains_of_head hc cs (by decide)] at h
    exact absurd h (by decide)

/-- What begins with a digit other than zero is an integer, a real number or a text. -/
theorem resolve_of_isDigit (hc : c.isDigit) (hzero : c ≠ '0') (cs : List Char) :
    resolve (String.ofList (c :: cs)) =
      ((((digits? 10 (c :: cs)).map Int.ofNat).bind ofInteger?).getD
        (((decimal? false (c :: cs)).map fun x => .real (.finite x)).getD (.text (String.ofList (c :: cs))))) := by
  have halnum := isAlphanum_of_isDigit hc
  have hbool : bool? (String.ofList (c :: cs)) = none := by
    rw [bool?, not_contains_of_head hc cs (by decide), not_contains_of_head hc cs (by decide)]
    rfl
  rw [resolve, if_neg (not_null_of_isDigit hc cs), hbool, String.toList_ofList, integer?_of_ne_zero halnum hzero,
    hasLeadingZero_of_ne_zero halnum hzero, real?_of_isAlphanum halnum]
  generalize ((digits? 10 (c :: cs)).map Int.ofNat).bind ofInteger? = v
  cases v with
  | none => cases decimal? false (c :: cs) <;> rfl
  | some v => rfl

/-! ### Letters first -/

theorem decimal?_of_isAlpha (hc : c.isAlpha) (negative : Bool) (cs : List Char) :
    decimal? negative (c :: cs) = none := by
  have hpoint : c ≠ '.' := ne_of_test hc (by decide)
  rw [decimal?, List.takeWhile_cons_of_neg (by simp [isDigit_of_isAlpha hc])]
  simp only [List.length_nil, List.drop_zero, List.nil_append]
  split
  next hn =>
    -- no digit stands before the point or after it
    split at hn
    next h => exact absurd (List.cons.inj h).1 hpoint
    next => exact absurd (hn : none = some _) (Option.some_ne_none _).symm
  next => rfl

/-- A text that begins with a letter and is none of the words is not null. -/
theorem not_null_of_isAlpha {cs : List Char} (hword : String.ofList (c :: cs) ∉ reservedWords) :
    ¬(String.ofList (c :: cs) = "" ∨ nullWords.contains (String.ofList (c :: cs))) := by
  simp only [reservedWords, List.mem_append, not_or] at hword
  rintro (h | h)
  · exact ofList_cons_ne_empty c cs h
  · exact hword.1.1 (List.contains_iff_mem.1 h)

/-- A text that begins with a letter and is none of the words stands for itself. -/
theorem resolve_of_isAlpha (hc : c.isAlpha) {cs : List Char} (hword : String.ofList (c :: cs) ∉ reservedWords) :
    resolve (String.ofList (c :: cs)) = .text (String.ofList (c :: cs)) := by
  have hnull := not_null_of_isAlpha hword
  have halnum := isAlphanum_of_isAlpha hc
  have hzero := ne_zero_of_isAlpha hc
  simp only [reservedWords, List.mem_append, not_or] at hword
  obtain ⟨⟨_, htrue⟩, hfalse⟩ := hword
  have hbool : bool? (String.ofList (c :: cs)) = none := by
    rw [bool?, if_neg fun h => htrue (List.contains_iff_mem.1 h),
      if_neg fun h => hfalse (List.contains_iff_mem.1 h)]
  rw [resolve, if_neg hnull, hbool, String.toList_ofList, integer?_of_ne_zero halnum hzero,
    digits?_eq_none List.mem_cons_self (isDigit_of_isAlpha hc), hasLeadingZero_of_ne_zero halnum hzero,
    real?_of_isAlphanum halnum, decimal?_of_isAlpha hc]
  rfl

end ClusterKeeper.Yaml.CoreSchema
