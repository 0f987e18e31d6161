/-!
Finite binary floating point numbers of double width, as exact rationals: a sign, a significand and
a power of two, in the one form each value has. Arithmetic is rounding of an exact quotient to the
nearest number, a tie to the even significand.

`ofRatio?` is the rounding, and `Double.same` the equality that tells numbers apart by value only,
so that both zeros are one.
-/

namespace ClusterKeeper

/-- Half of the significands are written with an exponent above the least one. -/
def Double.hidden : Nat := 0x10000000000000

/-- The least power of two that a significand is multiplied by. -/
def Double.leastExponent : Int := -1074

/-- The largest power of two that a significand is multiplied by. -/
def Double.greatestExponent : Int := 971

/-- A significand is normal, or small under the least exponent. -/
def Double.Canonical (significand : Nat) (exponent : Int) : Prop :=
  significand < 2 * Double.hidden ∧ Double.leastExponent ≤ exponent ∧
    exponent ≤ Double.greatestExponent ∧
    (Double.hidden ≤ significand ∨ exponent = Double.leastExponent)

instance (m : Nat) (e : Int) : Decidable (Double.Canonical m e) :=
  inferInstanceAs (Decidable (_ ∧ _ ∧ _ ∧ _))

/-- The number `± significand · 2 ^ exponent`. -/
structure Double where
  negative : Bool
  significand : Nat
  exponent : Int
  canonical : Double.Canonical significand exponent
  deriving DecidableEq

namespace Double

/-- Zero with a sign. -/
def zero (negative : Bool) : Double := ⟨negative, 0, leastExponent, by decide⟩

instance : Inhabited Double := ⟨zero false⟩

/-- Equality of values: the two zeros are equal. -/
def same (x y : Double) : Bool :=
  if x.significand = 0 then y.significand = 0
  else x.negative = y.negative && x.significand = y.significand && x.exponent = y.exponent

theorem same_refl (x : Double) : x.same x = true := by
  unfold same
  split <;> simp_all

/-- The magnitude as numerator and denominator. -/
def ratio (x : Double) : Nat × Nat :=
  if 0 ≤ x.exponent then (x.significand * Nat.pow 2 x.exponent.toNat, 1)
  else (x.significand, Nat.pow 2 (-x.exponent).toNat)

/-- A quotient over a power of two, as numerator and denominator. -/
def scaled (num den : Nat) (exponent : Int) : Nat × Nat :=
  if 0 ≤ exponent then (num, den * Nat.pow 2 exponent.toNat)
  else (num * Nat.pow 2 (-exponent).toNat, den)

/-- The integer nearest to a quotient, the even one of two. -/
def roundHalfEven (num den : Nat) : Nat :=
  let floor := num / den
  let twice := 2 * (num % den)
  if twice < den then floor
  else if den < twice then floor + 1
  else floor + floor % 2

/-- The power of two under which a quotient has a normal significand, or the least one. -/
def exponentFor (num den : Nat) : Int :=
  let guess := max leastExponent (Int.ofNat num.log2 - Int.ofNat den.log2 - 52)
  let (n, d) := scaled num den guess
  if n / d < hidden ∧ leastExponent < guess then guess - 1 else guess

/-- The number nearest to a quotient, the one with an even significand of two. There is none when
the quotient lies beyond the largest number. -/
def ofRatio? (negative : Bool) (num den : Nat) : Option Double :=
  if num = 0 then some (zero negative)
  else
    let e := exponentFor num den
    let (n, d) := scaled num den e
    let rounded := roundHalfEven n d
    let (m, e) := if rounded = 2 * hidden then (hidden, e + 1) else (rounded, e)
    if h : Canonical m e then some ⟨negative, m, e, h⟩ else none

/-- The number nearest to `digits · 10 ^ power`. -/
def ofDecimal? (negative : Bool) (digits : Nat) (power : Int) : Option Double :=
  if digits = 0 then some (zero negative)
  else if 0 ≤ power then ofRatio? negative (digits * Nat.pow 10 power.toNat) 1
  else ofRatio? negative digits (Nat.pow 10 (-power).toNat)

/-- The rounded product with a quotient, the sign kept. -/
def scaleBy? (x : Double) (num den : Nat) : Option Double :=
  let (n, d) := x.ratio
  ofRatio? x.negative (n * num) (d * den)

end Double

end ClusterKeeper
