import ClusterKeeper.Text.Blank

/-!
Classes of ASCII characters by their code points, and characters that a test tells apart: where a
character of some class is compared with the marks of a syntax, the test of the class does not hold of
the marks (`ne_of_test`).
-/

namespace ClusterKeeper.Text

/-- A test that holds of one character and not of another tells them apart. -/
theorem ne_of_test {p : Char → Bool} {c d : Char} (hc : p c) (hd : p d = false) : c ≠ d := by
  rintro rfl
  rw [hc] at hd
  exact absurd hd (by decide)

theorem toNat_of_isDigit {c : Char} (hc : c.isDigit) : 48 ≤ c.toNat ∧ c.toNat ≤ 57 := by
  simp only [Char.isDigit, Bool.and_eq_true, decide_eq_true_eq, ge_iff_le,
    UInt32.le_iff_toNat_le] at hc
  exact hc

theorem toNat_of_isAlpha {c : Char} (hc : c.isAlpha) :
    65 ≤ c.toNat ∧ c.toNat ≤ 90 ∨ 97 ≤ c.toNat ∧ c.toNat ≤ 122 := by
  replace hc : (decide (65 ≤ c.val ∧ c.val ≤ 90) || decide (97 ≤ c.val) && decide (c.val ≤ 122)) = true := hc
  simp only [Bool.or_eq_true, Bool.and_eq_true, decide_eq_true_eq, UInt32.le_iff_toNat_le] at hc
  exact hc

theorem isDigit_of_isAlpha {c : Char} (hc : c.isAlpha) : c.isDigit = false := by
  rw [Bool.eq_false_iff]
  intro hdigit
  have hupper := toNat_of_isDigit hdigit
  have hlower := toNat_of_isAlpha hc
  omega

/-- A text without blanks has none to trim. -/
theorem trim_of_not_blank {cs : List Char} (h : ∀ c ∈ cs, isBlank c = false) : trim cs = cs := by
  have htrim : ∀ cs : List Char, (∀ c ∈ cs, isBlank c = false) → trimLeft cs = cs := by
    intro cs hcs
    cases cs with
    | nil => rfl
    | cons c cs => exact List.dropWhile_cons_of_neg (by simp [hcs c List.mem_cons_self])
  rw [trim, htrim cs h, htrim _ fun c hc => h c (List.mem_reverse.1 hc), List.reverse_reverse]

end ClusterKeeper.Text
