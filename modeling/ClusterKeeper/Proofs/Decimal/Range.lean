import ClusterKeeper.Decimal.Shortest
import ClusterKeeper.Proofs.Text.Hex

/-!
Which whole numbers have a nearest double, and what a double's text holds. A whole number is rounded to a double
exactly if it is below `overflow`, which lies half a unit above the largest double. The text of a double always
holds a point or the sign of its power of ten.
-/

namespace ClusterKeeper.Double

/-- Half a unit above the largest double. -/
def overflow : Nat := 0x3fffffffffffff * Nat.pow 2 970

/-! ### Rounding of whole numbers -/

/-- A normal significand is rounded to a normal one or to the first that is too large; the last half unit goes
to that, since the significand before it is odd. -/
theorem roundHalfEven_normal {num den : Nat} (hlow : hidden ≤ num / den) (hhigh : num / den < 2 * hidden) :
    hidden ≤ roundHalfEven num den ∧ roundHalfEven num den ≤ 2 * hidden ∧
      (roundHalfEven num den = 2 * hidden ↔ (4 * hidden - 1) * den ≤ 2 * num) := by
  have hden : 0 < den := by
    refine Nat.pos_of_ne_zero fun hzero => ?_
    rw [hzero, Nat.div_zero] at hlow
    exact absurd hlow (by decide)
  have hnum : den * (num / den) + num % den = num := Nat.div_add_mod num den
  have hrest : num % den < den := Nat.mod_lt num hden
  unfold roundHalfEven
  generalize num / den = q at *
  generalize num % den = r at *
  unfold hidden at *
  dsimp only
  by_cases hlast : q = 0x1fffffffffffff
  · have hhalf : (4 * 0x10000000000000 - 1) * den ≤ 2 * num ↔ den ≤ 2 * r := by
      subst hlast hnum
      omega
    rw [hhalf, show q % 2 = 1 by rw [hlast]]
    clear hhalf hnum
    split
    next => omega
    split <;> omega
  · have hbelow : den * q ≤ den * 0x1ffffffffffffe := Nat.mul_le_mul_left den (by omega)
    split
    next => omega
    split <;> omega

theorem hidden_eq : hidden = Nat.pow 2 52 := by decide

/-- Under the exponent of its first bit a whole number has a normal significand. -/
theorem scaled_normal {n : Nat} (hn : n ≠ 0) :
    hidden ≤ (scaled n 1 (n.log2 - 52)).1 / (scaled n 1 (n.log2 - 52)).2 ∧
      (scaled n 1 (n.log2 - 52)).1 / (scaled n 1 (n.log2 - 52)).2 < 2 * hidden := by
  have hlow : 2 ^ n.log2 ≤ n := Nat.log2_self_le hn
  have hhigh : n < 2 ^ n.log2 * 2 := by
    rw [← Nat.pow_succ]
    exact Nat.lt_log2_self
  rw [scaled]
  split
  next he =>
    have hbits : 52 ≤ n.log2 := by omega
    obtain ⟨k, hk⟩ := Nat.exists_eq_add_of_le hbits
    have hexponent : ((n.log2 : Int) - 52).toNat = k := by omega
    have hpos : 0 < 2 ^ k := Nat.two_pow_pos k
    have hfirst : 2 ^ 52 = hidden := by rw [hidden_eq, Nat.pow_eq]
    rw [hk, Nat.pow_add, hfirst] at hlow hhigh
    rw [hexponent]
    show hidden ≤ n / (1 * 2 ^ k) ∧ n / (1 * 2 ^ k) < 2 * hidden
    rw [Nat.one_mul, Nat.le_div_iff_mul_le hpos, Nat.div_lt_iff_lt_mul hpos, Nat.mul_assoc, Nat.mul_comm 2]
    exact ⟨hlow, hhigh⟩
  next he =>
    have hexponent : (-((n.log2 : Int) - 52)).toNat = 52 - n.log2 := by omega
    have hpos : 0 < 2 ^ (52 - n.log2) := Nat.two_pow_pos _
    have hscale : 2 ^ n.log2 * 2 ^ (52 - n.log2) = hidden := by
      rw [← Nat.pow_add, Nat.add_sub_cancel' (by omega), hidden_eq, Nat.pow_eq]
    rw [hexponent, Nat.div_one]
    show hidden ≤ n * 2 ^ (52 - n.log2) ∧ n * 2 ^ (52 - n.log2) < 2 * hidden
    rw [← hscale, ← Nat.mul_assoc, Nat.mul_comm 2]
    exact ⟨Nat.mul_le_mul_right _ hlow, Nat.mul_lt_mul_of_pos_right hhigh hpos⟩

theorem exponentFor_one {n : Nat} (hn : n ≠ 0) : exponentFor n 1 = n.log2 - 52 := by
  have hguess : max leastExponent (Int.ofNat n.log2 - Int.ofNat (Nat.log2 1) - 52) = n.log2 - 52 := by
    have hone : Nat.log2 1 = 0 := by decide
    rw [hone, leastExponent]
    simp only [Int.ofNat_eq_natCast]
    omega
  rw [exponentFor, hguess]
  exact if_neg fun h => Nat.not_lt.2 (scaled_normal hn).1 h.1

theorem canonical_iff {m : Nat} {e : Int} (hlow : hidden ≤ m) (hhigh : m < 2 * hidden) (he : leastExponent ≤ e) :
    Canonical m e ↔ e ≤ greatestExponent :=
  ⟨fun h => h.2.2.1, fun h => ⟨hhigh, he, h, Or.inl hlow⟩⟩

/-- Where a whole number has no nearest double, its exponent is too large. -/
theorem isSome_ofRatio?_iff (negative : Bool) {n : Nat} (hn : n ≠ 0) :
    (ofRatio? negative n 1).isSome ↔ (n.log2 : Int) ≤ 1023 ∧
      ((n.log2 : Int) = 1023 →
        roundHalfEven (scaled n 1 (n.log2 - 52)).1 (scaled n 1 (n.log2 - 52)).2 ≠ 2 * hidden) := by
  obtain ⟨hlow, hhigh⟩ := scaled_normal hn
  obtain ⟨hnormal, hle, -⟩ := roundHalfEven_normal hlow hhigh
  have hleast : leastExponent ≤ (n.log2 : Int) - 52 := by
    rw [leastExponent]
    omega
  rw [ofRatio?, if_neg hn, exponentFor_one hn]
  dsimp only
  generalize roundHalfEven (scaled n 1 (n.log2 - 52)).1 (scaled n 1 (n.log2 - 52)).2 = rounded at *
  by_cases hfull : rounded = 2 * hidden
  · have hcanonical := canonical_iff (m := hidden) (e := n.log2 - 52 + 1) (Nat.le_refl _) (by decide) (by omega)
    rw [if_pos hfull]
    dsimp only
    rw [Option.isSome_dite, hcanonical, greatestExponent]
    omega
  · have hcanonical := canonical_iff hnormal (by omega) hleast
    rw [if_neg hfull]
    dsimp only
    rw [Option.isSome_dite, hcanonical, greatestExponent]
    omega

/-- The power of two in the limit, by a name, so that it is not evaluated. -/
theorem exists_overflow_eq : ∃ k, k = 970 ∧ overflow = 0x3fffffffffffff * Nat.pow 2 k :=
  ⟨970, rfl, by rw [overflow]⟩

/-- A whole number is rounded to a double exactly if it is not too large. -/
theorem isSome_ofRatio?_one (negative : Bool) (n : Nat) : (ofRatio? negative n 1).isSome ↔ n < overflow := by
  obtain ⟨k, hk, hoverflow⟩ := exists_overflow_eq
  rw [hoverflow, Nat.pow_eq]
  by_cases hn : n = 0
  · subst hn
    exact iff_of_true rfl (Nat.mul_pos (by decide) (Nat.two_pow_pos k))
  have hlow : 2 ^ n.log2 ≤ n := Nat.log2_self_le hn
  have hhigh : n < 2 ^ (n.log2 + 1) := Nat.lt_log2_self
  rw [isSome_ofRatio?_iff negative hn]
  rcases Nat.lt_trichotomy n.log2 1023 with hbits | hbits | hbits
  · have hpower : 2 ^ (n.log2 + 1) ≤ 2 ^ (53 + k) := Nat.pow_le_pow_right (by decide) (by omega)
    rw [Nat.pow_add 2 53] at hpower
    exact iff_of_true ⟨by omega, fun h => by omega⟩ (by omega)
  · obtain ⟨hnormal, hbelow⟩ := scaled_normal hn
    obtain ⟨-, -, hfull⟩ := roundHalfEven_normal hnormal hbelow
    have hscaled : scaled n 1 (n.log2 - 52) = (n, 2 ^ k * 2) := by
      have hexponent : (((1023 : Nat) : Int) - 52).toNat = k + 1 := by omega
      rw [hbits, scaled, if_pos (by decide), hexponent, Nat.pow_eq, Nat.one_mul, Nat.pow_succ]
    rw [hscaled] at hfull ⊢
    rw [Ne, hfull]
    unfold hidden
    omega
  · have hpower : 2 ^ (54 + k) ≤ 2 ^ n.log2 := Nat.pow_le_pow_right (by decide) (by omega)
    rw [Nat.pow_add 2 54] at hpower
    exact iff_of_false (fun h => by omega) (by omega)

/-! ### The text of a double -/

/-- What is written positionally has a point, and what is not has a sign before its power of ten. -/
theorem exists_mark_of_write (l : Layout) (d : Decimal) : ∃ c ∈ l.write d, c = '.' ∨ c = '+' ∨ c = '-' := by
  rw [Layout.write]
  dsimp only
  split
  next =>
    split
    next => exact ⟨'.', by simp, Or.inl rfl⟩
    split
    next => exact ⟨'.', by simp, Or.inl rfl⟩
    next => exact ⟨'.', by simp, Or.inl rfl⟩
  next =>
    generalize hsign : (if d.power + Int.ofNat (Nat.toDigits 10 d.digits).length - 1 < 0 then '-' else '+') = sign
    have hmark : sign = '+' ∨ sign = '-' := by
      rw [← hsign]
      split
      · exact Or.inr rfl
      · exact Or.inl rfl
    refine ⟨sign, ?_, Or.inr hmark⟩
    split
    next => simp
    next => simp
    next h => exact absurd h Nat.toDigits_ne_nil

theorem exists_mark_of_toText (x : Double) : ∃ c ∈ x.toText.toList, c = '.' ∨ c = '+' ∨ c = '-' := by
  have hmagnitude : ∃ c ∈ (if x.significand = 0 then "0.0".toList else layout.write x.shortest),
      c = '.' ∨ c = '+' ∨ c = '-' := by
    split
    · exact ⟨'.', by decide, Or.inl rfl⟩
    · exact exists_mark_of_write _ _
  rw [toText, String.toList_ofList]
  obtain ⟨c, hmem, hc⟩ := hmagnitude
  refine ⟨c, ?_, hc⟩
  split
  · exact List.mem_cons_of_mem _ hmem
  · exact hmem

/-- The text of a double is no hexadecimal text. -/
theorem hexDecode?_toText (x : Double) : Hex.decode? x.toText.toList = none := by
  obtain ⟨c, hmem, hc⟩ := exists_mark_of_toText x
  exact Hex.decode?_eq_none (by rcases hc with rfl | rfl | rfl <;> decide) hmem

end ClusterKeeper.Double
