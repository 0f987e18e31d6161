import ClusterKeeper.Json.Printer
import ClusterKeeper.Json.Reader

/-!
Texts and integers of JSON as they are printed, read again. Reading takes exactly what was printed and
leaves what follows: a text ends with its quotation mark, an integer where no digit, point or power of
ten follows (`EndsNumber`).

Main statements: `readText_quote` and `readNumber_integer`.
-/

namespace ClusterKeeper.Json

/-! ### Texts -/

theorem hexValue?_hexDigit : ∀ n < 16, hexValue? (hexDigit n) = some n := by
  decide

/-- The four digits of a control character are read as its number. -/
theorem unit?_control {n : Nat} (hn : n < 0x20) :
    unit? (hexDigit (n / 4096 % 16)) (hexDigit (n / 256 % 16)) (hexDigit (n / 16 % 16))
      (hexDigit (n % 16)) = some n := by
  rw [unit?, hexValue?_hexDigit _ (Nat.mod_lt _ (by decide)),
    hexValue?_hexDigit _ (Nat.mod_lt _ (by decide)), hexValue?_hexDigit _ (Nat.mod_lt _ (by decide)),
    hexValue?_hexDigit _ (Nat.mod_lt _ (by decide))]
  show some _ = some n
  congr 1
  omega

/-- A character that stands for itself is read as itself. -/
theorem readText_plain {c : Char} (hquote : c ≠ '"') (hslash : c ≠ '\\') (hcontrol : ¬c.toNat < 0x20)
    (rest : List Char) :
    readText (c :: rest) = (readText rest).map fun (s, r) => (c :: s, r) := by
  rw [readText.eq_def]
  split
  next h => exact absurd (List.cons.inj h).1 hquote
  next h => exact absurd (List.cons.inj h).1 hslash
  next h => exact absurd (List.cons.inj h).1 hslash
  next h =>
    obtain ⟨rfl, rfl⟩ := List.cons.inj h
    rw [if_neg (not_or.2 ⟨hslash, hcontrol⟩)]
  next h => exact absurd h (List.cons_ne_nil _ _)

/-- An escaped character is read as itself. -/
theorem readText_escape (c : Char) (rest : List Char) :
    readText (escape c ++ rest) = (readText rest).map fun (s, r) => (c :: s, r) := by
  rw [escape]
  split
  next h => rw [h]; rfl
  split
  next h => rw [h]; rfl
  split
  next h => rw [h]; rfl
  split
  next h => rw [h]; rfl
  split
  next h => rw [h]; rfl
  split
  next h => rw [h]; rfl
  split
  next h => rw [h]; rfl
  split
  next hcontrol =>
    show readText ('\\' :: 'u' :: _ :: _ :: _ :: _ :: rest) = _
    have hlow : isLowSurrogate c.toNat = false := by
      simp only [isLowSurrogate, Bool.and_eq_false_iff, decide_eq_false_iff_not]
      omega
    have hhigh : isHighSurrogate c.toNat = false := by
      simp only [isHighSurrogate, Bool.and_eq_false_iff, decide_eq_false_iff_not]
      omega
    rw [readText.eq_def]
    simp only [unit?_control hcontrol, hlow, hhigh, Char.ofNat_toNat]
    rfl
  next hquote hslash _ _ _ _ _ hcontrol => exact readText_plain hquote hslash hcontrol rest

theorem readText_quote (s rest : List Char) :
    readText (s.flatMap escape ++ '"' :: rest) = some (s, rest) := by
  induction s with
  | nil => rfl
  | cons c s ih => rw [List.flatMap_cons, List.append_assoc, readText_escape, ih, Option.map_some]

/-! ### Integers -/

/-- The number of decimal digits. -/
def ofDigits (ds : List Nat) : Nat := ds.foldl (fun n d => n * 10 + d) 0

theorem le_foldl_digits (ds : List Nat) (word : Nat) :
    word ≤ ds.foldl (fun n d => n * 10 + d) word := by
  induction ds generalizing word with
  | nil => exact Nat.le_refl word
  | cons d ds ih => exact Nat.le_trans (by omega) (ih (word * 10 + d))

/-- Digits whose number is within the limit are all collected. -/
theorem collect_of_le {limit : Nat} (ds : List Nat) (word : Nat)
    (h : ds.foldl (fun n d => n * 10 + d) word ≤ limit) :
    collect limit word ds = (ds.foldl (fun n d => n * 10 + d) word, []) := by
  induction ds generalizing word with
  | nil => rfl
  | cons d ds ih =>
    rw [collect, if_pos (Nat.le_trans (le_foldl_digits ds _) h)]
    exact ih _ h

/-- The digits of a number, as they are read. -/
def decimal (n : Nat) : List Nat := (Nat.toDigits 10 n).map fun c => c.toNat - '0'.toNat

theorem decimal_of_lt {n : Nat} (h : n < 10) : decimal n = [n] := by
  rw [decimal, Nat.toDigits_of_lt_base h, List.map_singleton]
  exact congrArg (fun d => [d]) (Nat.toNat_digitChar_sub_48_of_lt_ten h)

theorem decimal_of_le {n : Nat} (h : 10 ≤ n) : decimal n = decimal (n / 10) ++ [n % 10] := by
  rw [decimal, Nat.toDigits_of_base_le (by decide) h, List.map_append, List.map_singleton]
  have hlast := Nat.toNat_digitChar_sub_48_of_lt_ten (Nat.mod_lt n (by decide : 10 > 0))
  exact congrArg (fun d => decimal (n / 10) ++ [d]) hlast

theorem ofDigits_decimal (n : Nat) : ofDigits (decimal n) = n := by
  induction n using Nat.strongRecOn with
  | ind n ih =>
    by_cases h : n < 10
    · rw [decimal_of_lt h]
      exact Nat.zero_add n
    · rw [decimal_of_le (by omega), ofDigits, List.foldl_append]
      have hfront := ih (n / 10) (by omega)
      rw [ofDigits] at hfront
      rw [hfront]
      show n / 10 * 10 + n % 10 = n
      omega

/-- A positive number begins with a digit that is not zero. -/
theorem decimal_head {n : Nat} (hn : 0 < n) : ∃ d ds, decimal n = d :: ds ∧ d ≠ 0 := by
  induction n using Nat.strongRecOn with
  | ind n ih =>
    by_cases h : n < 10
    · exact ⟨n, [], decimal_of_lt h, by omega⟩
    · obtain ⟨d, ds, hds, hd⟩ := ih (n / 10) (by omega) (by omega)
      exact ⟨d, ds ++ [n % 10], by rw [decimal_of_le (by omega), hds]; rfl, hd⟩

/-- What may follow an integer: no digit, no point and no power of ten. -/
def EndsNumber : List Char → Prop
  | [] => True
  | c :: _ => c.isDigit = false ∧ c ≠ '.' ∧ c ≠ 'e' ∧ c ≠ 'E'

theorem digits_toDigits {rest : List Char} (hrest : EndsNumber rest) (n : Nat) :
    digits (Nat.toDigits 10 n ++ rest) = (decimal n, rest) := by
  have hdigits : ∀ c ∈ Nat.toDigits 10 n, c.isDigit :=
    fun c hc => Nat.isDigit_of_mem_toDigits (by decide) (by decide) hc
  have hstop : rest.takeWhile Char.isDigit = [] ∧ rest.dropWhile Char.isDigit = rest := by
    cases rest with
    | nil => exact ⟨rfl, rfl⟩
    | cons c rest => simp [hrest.1]
  rw [digits, List.takeWhile_append_of_pos hdigits, List.dropWhile_append_of_pos hdigits, hstop.1,
    hstop.2, List.append_nil, decimal]

/-- A number without a sign is read as its word. -/
theorem readMagnitude_toDigits {rest : List Char} (hrest : EndsNumber rest) {n : Nat}
    (hn : n ≤ wordLimit) (negative : Bool) :
    readMagnitude negative (Nat.toDigits 10 n ++ rest) = (ofWord negative n).map (·, rest) := by
  have hcollect : collect wordLimit 0 (decimal n) = (n, []) := by
    have hword := ofDigits_decimal n
    rw [ofDigits] at hword
    rw [collect_of_le _ _ (by rw [hword]; exact hn), hword]
  have hhead : ∃ d ds, decimal n = d :: ds ∧ ¬(d = 0 ∧ ds ≠ []) := by
    rcases Nat.eq_zero_or_pos n with rfl | hpos
    · exact ⟨0, [], rfl, fun h => h.2 rfl⟩
    · obtain ⟨d, ds, hds, hd⟩ := decimal_head hpos
      exact ⟨d, ds, hds, fun h => hd h.1⟩
  obtain ⟨d, ds, hds, hzero⟩ := hhead
  rw [hds] at hcollect
  rw [readMagnitude, digits_toDigits hrest, hds]
  simp only [if_neg hzero, hcollect]
  cases rest with
  | nil => rfl
  | cons c rest =>
    obtain ⟨_, hpoint, he, hE⟩ := hrest
    split
    next h => exact absurd (List.cons.inj h).1 hpoint
    next h => exact absurd (List.cons.inj h).1 he
    next h => exact absurd (List.cons.inj h).1 hE
    next => rfl

theorem readNumber_integer {rest : List Char} (hrest : EndsNumber rest) {i : Int} (hi : InRange i) :
    readNumber (integer i ++ rest) = some (.int i, rest) := by
  obtain ⟨hlow, hhigh⟩ := hi
  have hword : i.natAbs ≤ wordLimit := by
    rw [wordLimit]
    omega
  rw [integer]
  split
  next hneg =>
    show readMagnitude true (Nat.toDigits 10 i.natAbs ++ rest) = _
    have hword' : ¬(i.natAbs = 0 ∨ 0x8000000000000000 < i.natAbs) := by omega
    have hvalue : (-(i.natAbs : Int)) = i := by omega
    rw [readMagnitude_toDigits hrest hword, ofWord, if_neg (by decide), if_neg hword', hvalue]
    rfl
  next hneg =>
    have hvalue : (i.natAbs : Int) = i := by omega
    rw [readNumber.eq_def]
    split
    next cs h =>
      -- a digit is no minus sign
      have hminus : '-' ∈ Nat.toDigits 10 i.natAbs := by
        cases hds : Nat.toDigits 10 i.natAbs with
        | nil => exact absurd hds Nat.toDigits_ne_nil
        | cons c ds =>
          rw [hds] at h
          exact (List.cons.inj h).1 ▸ List.mem_cons_self
      have hdigit := Nat.isDigit_of_mem_toDigits (by decide) (by decide) hminus
      exact absurd hdigit (by decide)
    next =>
      rw [readMagnitude_toDigits hrest hword, ofWord, if_pos (by decide), hvalue]
      rfl

end ClusterKeeper.Json
