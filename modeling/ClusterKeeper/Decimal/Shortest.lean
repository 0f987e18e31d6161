import ClusterKeeper.Decimal.Double

/-!
The fewest decimal digits that read back as a number. A decimal reads back as the number when it
lies in the interval of the rationals that round to it; the ends belong to the interval when the
significand is even. For one digit, two digits and so on, the two neighbours of the number on the
decimal grid are tested, the first grid with a hit wins, and of two hits the nearer.
-/

namespace ClusterKeeper.Double

/-- The decimal `digits · 10 ^ power`. -/
structure Decimal where
  digits : Nat
  power : Int
  deriving DecidableEq, Repr

/-- Four times the significand, and how far below and above it the interval reaches. -/
def margins (x : Double) : Nat × Nat × Nat :=
  let below := if x.significand = hidden ∧ leastExponent < x.exponent then 1 else 2
  (4 * x.significand, below, 2)

/-- `a · 2 ^ e` compared with `b · 10 ^ p`. -/
def compareScaled (a : Nat) (e : Int) (b : Nat) (p : Int) : Ordering :=
  let left := a * Nat.pow 2 e.toNat * Nat.pow 10 (-p).toNat
  let right := b * Nat.pow 10 p.toNat * Nat.pow 2 (-e).toNat
  compare left right

/-- Whether a decimal rounds to the magnitude of the number. -/
def readsBack (x : Double) (d : Decimal) : Bool :=
  let (mid, below, above) := x.margins
  let low := compareScaled (mid - below) (x.exponent - 2) d.digits d.power
  let high := compareScaled (mid + above) (x.exponent - 2) d.digits d.power
  let even := x.significand % 2 == 0
  (low == .lt || (even && low == .eq)) && (high == .gt || (even && high == .eq))

/-- The place of the first digit of a positive magnitude: `10 ^ k ≤ v < 10 ^ (k + 1)`. -/
def leadingPlace (x : Double) : Int :=
  let (num, den) := x.ratio
  Int.ofNat (Nat.toDigits 10 (num * Nat.pow 10 343 / den)).length - 344

/-- Twice the magnitude on the grid of `10 ^ power`, rounded down, with a flag for a remainder. -/
def twiceOnGrid (x : Double) (power : Int) : Nat × Bool :=
  let (num, den) := x.ratio
  let n := 2 * num * Nat.pow 10 (-power).toNat
  let d := den * Nat.pow 10 power.toNat
  (n / d, n % d ≠ 0)

/-- The neighbour on the grid of `10 ^ power` that reads back, the nearer of two, at a tie the
even one. -/
def onGrid (x : Double) (power : Int) : Option Decimal :=
  let (twice, more) := x.twiceOnGrid power
  let floor := twice / 2
  let down : Decimal := ⟨floor, power⟩
  let up : Decimal := ⟨floor + 1, power⟩
  match x.readsBack down, x.readsBack up with
  | true, true =>
    if twice % 2 = 0 then some down
    else if more then some up
    else if floor % 2 = 0 then some down else some up
  | true, false => some down
  | false, true => some up
  | false, false => none

/-- Drops zeros at the end of the digits. -/
def Decimal.trim (d : Decimal) : Decimal := go d.digits d.power d.digits
where
  /-- At most `fuel` zeros are dropped. -/
  go (digits : Nat) (power : Int) : Nat → Decimal
    | 0 => ⟨digits, power⟩
    | fuel + 1 =>
      if digits ≠ 0 ∧ digits % 10 = 0 then go (digits / 10) (power + 1) fuel else ⟨digits, power⟩

/-- The shortest decimal that reads back as the magnitude. -/
def shortest (x : Double) : Decimal :=
  if x.significand = 0 then ⟨0, 0⟩
  else
    let k := x.leadingPlace
    match (List.range 17).findSome? (fun n => x.onGrid (k - Int.ofNat n)) with
    | some d => d.trim
    | none => ⟨(x.twiceOnGrid (k - 16)).1 / 2, k - 16⟩

/-- How a number is written: positionally while the place of its first digit is one of a range, and
with a power of ten elsewhere. -/
structure Layout where
  /-- The least place of a first digit that is written positionally. -/
  leastPlace : Int
  /-- The greatest place of a first digit that is written positionally. -/
  greatestPlace : Int

/-- Numbers from a hundred thousandth up to sixteen digits before the point are positional. -/
def layout : Layout := ⟨-5, 15⟩

/-- The digits of a magnitude with the point or the power of ten. -/
def Layout.write (l : Layout) (d : Decimal) : List Char :=
  let ds := Nat.toDigits 10 d.digits
  let place := d.power + Int.ofNat ds.length - 1
  if l.leastPlace ≤ place ∧ place ≤ l.greatestPlace then
    if 0 ≤ d.power then ds ++ List.replicate d.power.toNat '0' ++ ['.', '0']
    else if 0 ≤ place then
      ds.take (place.toNat + 1) ++ '.' :: ds.drop (place.toNat + 1)
    else '0' :: '.' :: List.replicate ((-place).toNat - 1) '0' ++ ds
  else
    let exponent := (if place < 0 then '-' else '+') :: Nat.toDigits 10 place.natAbs
    match ds with
    | [one] => one :: 'e' :: exponent
    | one :: more => one :: '.' :: more ++ 'e' :: exponent
    | [] => []

/-- The text of a number. -/
def toText (x : Double) : String :=
  let magnitude := if x.significand = 0 then "0.0".toList else layout.write x.shortest
  String.ofList (if x.negative then '-' :: magnitude else magnitude)

end ClusterKeeper.Double
