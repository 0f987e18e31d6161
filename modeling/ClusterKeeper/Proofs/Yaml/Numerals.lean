import ClusterKeeper.Proofs.Decimal.Range
import ClusterKeeper.Proofs.Yaml.CoreSchema

/-!
Texts of letters and digits that begin with a digit other than zero. The schema takes such a text for an integer
or for a real number if it writes one, and what is made of the number need not be the text again. `Misread` says
of which texts this is so: of digits that write a number beyond 64 bits but not beyond the doubles, and of digits
with the letter e and more digits, if the number is not beyond the doubles either. Main statements:
`resolve_of_misread` and `resolve_of_not_misread`.
-/

namespace ClusterKeeper.Yaml.CoreSchema

open Text

variable {c e : Char} {cs ds es : List Char}

/-- A text of letters and digits is taken for a number that is not written as the text: a number of more than 64
bits or one with a power of ten, if there is a double for it. -/
def Misread (cs : List Char) : Prop :=
  match cs.dropWhile Char.isDigit with
  | [] => 0x10000000000000000 ≤ number cs ∧ number cs < Double.overflow
  | e :: es => (e = 'e' ∨ e = 'E') ∧ (es ≠ [] ∧ es.all Char.isDigit) ∧
      number (cs.takeWhile Char.isDigit) * Nat.pow 10 (number es) < Double.overflow

instance (cs : List Char) : Decidable (Misread cs) :=
  match h : cs.dropWhile Char.isDigit with
  | [] => decidable_of_iff (0x10000000000000000 ≤ number cs ∧ number cs < Double.overflow) (by rw [Misread, h])
  | e :: es => decidable_of_iff ((e = 'e' ∨ e = 'E') ∧ (es ≠ [] ∧ es.all Char.isDigit) ∧
      number (cs.takeWhile Char.isDigit) * Nat.pow 10 (number es) < Double.overflow) (by rw [Misread, h])

/-! ### The digits of a number -/

theorem digitChar_of_isDigit (hc : c.isDigit) : Nat.digitChar (c.toNat - '0'.toNat) = c := by
  have hcode := toNat_of_isDigit hc
  apply Char.toNat_inj.1
  show (Nat.digitChar (c.toNat - 48)).toNat = c.toNat
  rw [Nat.toNat_digitChar_of_lt_ten (by omega)]
  omega

theorem toDigits_ofDigitChars {n : Nat} (hn : 0 < n) (hds : ∀ c ∈ ds, c.isDigit) :
    Nat.toDigits 10 (Nat.ofDigitChars 10 ds n) = Nat.toDigits 10 n ++ ds := by
  induction ds generalizing n with
  | nil => rw [Nat.ofDigitChars_nil, List.append_nil]
  | cons c ds ih =>
    obtain ⟨hc, hds⟩ := List.forall_mem_cons.1 hds
    have hlast := Nat.toDigits_append_toDigits (by decide : 1 < 10) hn (toNat_sub_lt hc)
    rw [Nat.toDigits_of_lt_base (toNat_sub_lt hc), digitChar_of_isDigit hc] at hlast
    rw [Nat.ofDigitChars_cons, ih (by omega) hds, ← hlast, List.append_assoc, List.singleton_append]

/-- Digits without a zero in front are those of their number. -/
theorem toDigits_number (hc : c.isDigit) (hzero : c ≠ '0') (hds : ∀ c ∈ ds, c.isDigit) :
    Nat.toDigits 10 (number (c :: ds)) = c :: ds := by
  have hcode := toNat_of_isDigit hc
  have hzero' : c.toNat ≠ 48 := fun h => hzero (Char.toNat_inj.1 h)
  have hpos : 0 < c.toNat - '0'.toNat := by
    show 0 < c.toNat - 48
    omega
  rw [number, Nat.ofDigitChars_cons, Nat.mul_zero, Nat.zero_add, toDigits_ofDigitChars hpos hds,
    Nat.toDigits_of_lt_base (toNat_sub_lt hc), digitChar_of_isDigit hc, List.singleton_append]

/-! ### Reading a decimal number -/

theorem ofDecimal?_natCast (negative : Bool) (n p : Nat) :
    Double.ofDecimal? negative n p = Double.ofRatio? negative (n * Nat.pow 10 p) 1 := by
  rw [Double.ofDecimal?]
  split
  next h =>
    rw [h, Nat.zero_mul]
    rfl
  next => rw [if_pos (Int.natCast_nonneg p), Int.toNat_natCast]

theorem digits?_ten_eq_none (h : ¬(ds ≠ [] ∧ ∀ c ∈ ds, c.isDigit)) : digits? 10 ds = none := by
  by_cases hne : ds = []
  · rw [hne]
    rfl
  · have hother : ∃ c ∈ ds, c.isDigit = false := by
      simpa [hne] using h
    obtain ⟨c, hmem, hc⟩ := hother
    exact digits?_eq_none hmem hc

theorem decimal?_of_isDigit (hne : ds ≠ []) (hds : ∀ c ∈ ds, c.isDigit) :
    decimal? false ds = Double.ofRatio? false (number ds) 1 := by
  have htake : ds.takeWhile Char.isDigit = ds := by
    have h : (ds ++ []).takeWhile Char.isDigit = ds ++ [].takeWhile Char.isDigit :=
      List.takeWhile_append_of_pos hds
    rwa [List.append_nil, List.takeWhile_nil, List.append_nil] at h
  have hvalue := ofDecimal?_natCast false (number ds) 0
  rw [Nat.pow_eq, Nat.pow_zero, Nat.mul_one] at hvalue
  rw [decimal?, htake]
  simp only [List.drop_length, List.append_nil, digits?_ten hne hds]
  exact hvalue

/-- Digits and a letter are a number if the letter is the one for a power of ten and digits follow. -/
theorem decimal?_of_isAlpha_after (hne : ds ≠ []) (hds : ∀ c ∈ ds, c.isDigit) (he : e.isAlpha)
    (hes : ∀ c ∈ es, c.isAlphanum) :
    decimal? false (ds ++ e :: es) = if e = 'e' ∨ e = 'E' then
      (digits? 10 es).bind fun p => if 100000 < p ∧ number ds ≠ 0 then none
        else Double.ofRatio? false (number ds * Nat.pow 10 p) 1
      else none := by
  have htake : (ds ++ e :: es).takeWhile Char.isDigit = ds := by
    rw [List.takeWhile_append_of_pos hds, List.takeWhile_cons_of_neg (by simp [isDigit_of_isAlpha he]),
      List.append_nil]
  have hpoint : e ≠ '.' := ne_of_test he (by decide)
  have hsign : signOf es = (none, es) := by
    cases es with
    | nil => rfl
    | cons c es => exact signOf_of_isAlphanum (hes c List.mem_cons_self) es
  rw [decimal?, htake, List.drop_left]
  split
  next fraction rest hfraction =>
    split at hfraction
    next heq => exact absurd (List.cons.inj heq).1 hpoint
    next =>
      obtain ⟨rfl, rfl⟩ := Prod.mk.inj hfraction
      simp only [List.append_nil, digits?_ten hne hds, hsign]
      by_cases hletter : e = 'e' ∨ e = 'E'
      · rw [if_pos hletter, if_pos hletter]
        cases digits? 10 es with
        | none => rfl
        | some p =>
          have hplace : Int.ofNat p - Int.ofNat ([] : List Char).length = p := Int.sub_zero p
          have hlarge : 100000 < (p : Int) ∧ number ds ≠ 0 ↔ 100000 < p ∧ number ds ≠ 0 := by omega
          simp only [Option.map_some, Option.bind_some, reduceCtorEq, if_false, hplace, hlarge]
          rw [if_neg (by omega), ofDecimal?_natCast]
      · rw [if_neg hletter, if_neg hletter]

/-- No double is as large as a number with so many zeros. -/
theorem overflow_le {m p : Nat} (hm : m ≠ 0) (hp : 100000 < p) : Double.overflow ≤ m * Nat.pow 10 p := by
  obtain ⟨k, hk, hoverflow⟩ := Double.exists_overflow_eq
  have hpower : 2 ^ (54 + k) ≤ 10 ^ p := calc
    2 ^ (54 + k) ≤ 10 ^ (54 + k) := Nat.pow_le_pow_left (by decide) _
    _ ≤ 10 ^ p := Nat.pow_le_pow_right (by decide) (by omega)
  have hproduct : 10 ^ p ≤ m * 10 ^ p := Nat.le_mul_of_pos_left _ (Nat.pos_of_ne_zero hm)
  rw [Nat.pow_add] at hpower
  rw [hoverflow, Nat.pow_eq, Nat.pow_eq]
  omega

theorem isSome_decimal?_after (hne : ds ≠ []) (hds : ∀ c ∈ ds, c.isDigit) (he : e.isAlpha)
    (hes : ∀ c ∈ es, c.isAlphanum) :
    (decimal? false (ds ++ e :: es)).isSome ↔ (e = 'e' ∨ e = 'E') ∧ (es ≠ [] ∧ ∀ c ∈ es, c.isDigit) ∧
      number ds * Nat.pow 10 (number es) < Double.overflow := by
  rw [decimal?_of_isAlpha_after hne hds he hes]
  by_cases hletter : e = 'e' ∨ e = 'E'
  · rw [if_pos hletter, and_iff_right hletter]
    by_cases hpower : es ≠ [] ∧ ∀ c ∈ es, c.isDigit
    · rw [digits?_ten hpower.1 hpower.2, Option.bind_some, and_iff_right hpower]
      split
      next hlarge => exact iff_of_false Bool.false_ne_true (Nat.not_lt.2 (overflow_le hlarge.2 hlarge.1))
      next => exact Double.isSome_ofRatio?_one false _
    · rw [digits?_ten_eq_none hpower]
      exact iff_of_false Bool.false_ne_true fun h => hpower h.1
  · rw [if_neg hletter]
    exact iff_of_false Bool.false_ne_true fun h => hletter h.1

/-! ### What is made of a text -/

theorem misread_digits (hcs : cs.dropWhile Char.isDigit = []) :
    Misread cs ↔ 0x10000000000000000 ≤ number cs ∧ number cs < Double.overflow := by
  rw [Misread, hcs]

theorem misread_letter (hcs : cs = ds ++ e :: es) (hrest : cs.dropWhile Char.isDigit = e :: es)
    (hfirst : cs.takeWhile Char.isDigit = ds) (hne : ds ≠ []) (hds : ∀ c ∈ ds, c.isDigit) (he : e.isAlpha)
    (hes : ∀ c ∈ es, c.isAlphanum) : Misread cs ↔ (decimal? false cs).isSome := by
  rw [Misread, hrest, hfirst, hcs, isSome_decimal?_after hne hds he hes]
  simp only [List.all_eq_true]

/-- What holds another letter than that for a power of ten is not misread. -/
theorem not_misread_of_mem (hmem : c ∈ cs) (hdigit : c.isDigit = false) (hletter : ¬(c = 'e' ∨ c = 'E')) :
    ¬Misread cs := by
  have hother : ∀ {ds : List Char}, (∀ d ∈ ds, d.isDigit) → c ∉ ds := fun hds h =>
    Bool.false_ne_true (hdigit.symm.trans (hds c h))
  have hfirst := hother (List.all_eq_true.1 (List.all_takeWhile (p := Char.isDigit) (l := cs)))
  have hrest : c ∈ cs.dropWhile Char.isDigit := by
    rw [← List.takeWhile_append_dropWhile (p := Char.isDigit) (l := cs)] at hmem
    exact (List.mem_append.1 hmem).resolve_left hfirst
  rw [Misread]
  split
  next hnil => exact absurd (hnil ▸ hrest) List.not_mem_nil
  next e es hcons =>
    rw [hcons] at hrest
    rintro ⟨he, ⟨-, hes⟩, -⟩
    obtain rfl | hrest := List.mem_cons.1 hrest
    · exact hletter he
    · exact hother (List.all_eq_true.1 hes) hrest

/-- A text of letters and digits is made of digits alone, or it holds a letter, and then it is misread if it
writes a decimal number. -/
theorem digits_or_letter (hc : c.isDigit) (hcs : ∀ d ∈ cs, d.isAlphanum) :
    (c :: cs).dropWhile Char.isDigit = [] ∧ (∀ d ∈ cs, d.isDigit) ∨
      (∃ e ∈ c :: cs, e.isAlpha) ∧ (Misread (c :: cs) ↔ (decimal? false (c :: cs)).isSome) := by
  have hsplit := List.takeWhile_append_dropWhile (p := Char.isDigit) (l := c :: cs)
  have hdigits := List.all_eq_true.1 (List.all_takeWhile (p := Char.isDigit) (l := c :: cs))
  have hstop := List.head?_dropWhile_not Char.isDigit (c :: cs)
  cases hrest : (c :: cs).dropWhile Char.isDigit with
  | nil =>
    rw [hrest, List.append_nil] at hsplit
    rw [hsplit] at hdigits
    exact Or.inl ⟨rfl, (List.forall_mem_cons.1 hdigits).2⟩
  | cons e es =>
    rw [hrest] at hsplit hstop
    have he : e.isDigit = false := hstop
    have hmem : ∀ d ∈ e :: es, d ∈ cs := by
      intro d hd
      have hall : d ∈ (c :: cs).dropWhile Char.isDigit := hrest ▸ hd
      rw [List.dropWhile_cons_of_pos hc] at hall
      exact (List.dropWhile_suffix _).subset hall
    have halpha : e.isAlpha := by
      have halnum := hcs e (hmem e List.mem_cons_self)
      rwa [Char.isAlphanum, he, Bool.or_false] at halnum
    have hne : (c :: cs).takeWhile Char.isDigit ≠ [] := by
      rw [List.takeWhile_cons_of_pos hc]
      exact List.cons_ne_nil _ _
    refine Or.inr ⟨⟨e, List.mem_cons_of_mem c (hmem e List.mem_cons_self), halpha⟩, ?_⟩
    exact misread_letter hsplit.symm hrest rfl hne hdigits halpha fun d hd =>
      hcs d (hmem d (List.mem_cons_of_mem e hd))

theorem ofInteger?_ofNat (n : Nat) : ofInteger? (Int.ofNat n) =
    if n < 0x10000000000000000 then some (.int n)
    else if n < 0x100000000000000000000000000000000 then some (.bigInt n) else none := by
  have hint : Json.InRange (Int.ofNat n) ↔ n < 0x10000000000000000 := by
    rw [Json.InRange, Int.ofNat_eq_natCast]
    omega
  have hbig : -0x80000000000000000000000000000000 ≤ Int.ofNat n ∧
      Int.ofNat n < 0x100000000000000000000000000000000 ↔ n < 0x100000000000000000000000000000000 := by
    rw [Int.ofNat_eq_natCast]
    omega
  simp only [ofInteger?, hint, hbig]
  rfl

theorem lt_overflow {n : Nat} (hn : n < 0x100000000000000000000000000000000) : n < Double.overflow := by
  obtain ⟨k, hk, hoverflow⟩ := Double.exists_overflow_eq
  have hpower : 2 ^ 128 ≤ 2 ^ k := Nat.pow_le_pow_right (by decide) (by omega)
  rw [hoverflow, Nat.pow_eq]
  omega

/-- Digits alone are an integer if that is not too large, and else a real number if that is not too large. -/
theorem resolve_digits (hc : c.isDigit) (hzero : c ≠ '0') (hds : ∀ d ∈ ds, d.isDigit) :
    resolve (String.ofList (c :: ds)) =
      if number (c :: ds) < 0x10000000000000000 then .int (number (c :: ds))
      else if number (c :: ds) < 0x100000000000000000000000000000000 then .bigInt (number (c :: ds))
      else ((Double.ofRatio? false (number (c :: ds)) 1).map fun x => .real (.finite x)).getD
        (.text (String.ofList (c :: ds))) := by
  have hall : ∀ d ∈ c :: ds, d.isDigit := List.forall_mem_cons.2 ⟨hc, hds⟩
  rw [resolve_of_isDigit hc hzero, digits?_ten (List.cons_ne_nil c ds) hall, Option.map_some, Option.bind_some,
    ofInteger?_ofNat, decimal?_of_isDigit (List.cons_ne_nil c ds) hall]
  split
  next => rfl
  split <;> rfl

/-- What holds a letter is a real number or a text. -/
theorem resolve_letter (hc : c.isDigit) (hzero : c ≠ '0') (hmem : e ∈ c :: cs) (he : e.isAlpha) :
    resolve (String.ofList (c :: cs)) =
      ((decimal? false (c :: cs)).map fun x => .real (.finite x)).getD (.text (String.ofList (c :: cs))) := by
  rw [resolve_of_isDigit hc hzero, digits?_eq_none hmem (isDigit_of_isAlpha he)]
  rfl

/-- What is misread is an integer of more than 64 bits or a real number. -/
theorem resolve_of_misread (hc : c.isDigit) (hzero : c ≠ '0') (hcs : ∀ d ∈ cs, d.isAlphanum)
    (h : Misread (c :: cs)) :
    (∃ i, resolve (String.ofList (c :: cs)) = .bigInt i) ∨
      ∃ x, resolve (String.ofList (c :: cs)) = .real (.finite x) := by
  rcases digits_or_letter hc hcs with ⟨hrest, hds⟩ | ⟨⟨e, hmem, he⟩, hmisread⟩
  · obtain ⟨hlow, hhigh⟩ := (misread_digits hrest).1 h
    rw [resolve_digits hc hzero hds, if_neg (Nat.not_lt.2 hlow)]
    split
    next => exact Or.inl ⟨_, rfl⟩
    next =>
      obtain ⟨x, hx⟩ := Option.isSome_iff_exists.1 ((Double.isSome_ofRatio?_one false _).2 hhigh)
      rw [hx]
      exact Or.inr ⟨x, rfl⟩
  · obtain ⟨x, hx⟩ := Option.isSome_iff_exists.1 (hmisread.1 h)
    rw [resolve_letter hc hzero hmem he, hx]
    exact Or.inr ⟨x, rfl⟩

/-- What is not misread is a text, or an integer whose digits are the text. -/
theorem resolve_of_not_misread (hc : c.isDigit) (hzero : c ≠ '0') (hcs : ∀ d ∈ cs, d.isAlphanum)
    (h : ¬Misread (c :: cs)) :
    resolve (String.ofList (c :: cs)) = .text (String.ofList (c :: cs)) ∨
      ∃ n : Nat, resolve (String.ofList (c :: cs)) = .int n ∧ Nat.toDigits 10 n = c :: cs := by
  rcases digits_or_letter hc hcs with ⟨hrest, hds⟩ | ⟨⟨e, hmem, he⟩, hmisread⟩
  · rw [misread_digits hrest] at h
    rw [resolve_digits hc hzero hds]
    split
    next => exact Or.inr ⟨_, rfl, toDigits_number hc hzero hds⟩
    next hlow =>
      have hhigh : ¬number (c :: cs) < Double.overflow := fun hlt => h ⟨Nat.not_lt.1 hlow, hlt⟩
      have hnone := Option.not_isSome_iff_eq_none.1 fun hsome => hhigh ((Double.isSome_ofRatio?_one false _).1 hsome)
      rw [if_neg fun hlt => hhigh (lt_overflow hlt), hnone]
      exact Or.inl rfl
  · rw [hmisread, Option.not_isSome_iff_eq_none] at h
    rw [resolve_letter hc hzero hmem he, h]
    exact Or.inl rfl

end ClusterKeeper.Yaml.CoreSchema
