/-
Fractions of 53 binary places, which JSON numbers other than integers are. A decimal is read as the digits
times a power of ten, each of them and the result rounded to the nearest fraction, ties to even; a fraction
is written with the fewest decimal digits that lie between the midpoints to its neighbours, and of those as
near to it as can be.
-/

namespace HubSearch

/-- The number `significand * 2 ^ exponent`, which is not negative. -/
structure Fraction where
  significand : Nat
  exponent : Int
  deriving DecidableEq, Inhabited

namespace Fraction

/-! ## Rounding -/

/-- The fraction is this number over `denominator`. -/
def numerator (x : Fraction) : Nat := x.significand <<< x.exponent.toNat

/-- The power of two below the numerator. -/
def denominator (x : Fraction) : Nat := 1 <<< (-x.exponent).toNat

/-- The exponent of the greatest power of two that is at most `num / den`. -/
def magnitude (num den : Nat) : Int :=
  let k : Int := (Nat.log2 num : Int) - (Nat.log2 den : Int)
  if den <<< k.toNat ≤ num <<< (-k).toNat then k else k - 1

/-- The least exponent. -/
def leastExponent : Int := -1074

/-- The fraction nearest to `num / den`; of two that are equally near, the one with the even significand. -/
def nearest (num den : Nat) : Fraction :=
  if num = 0 then ⟨0, 0⟩
  else
    let wanted := magnitude num den - 52
    let exponent := if wanted < leastExponent then leastExponent else wanted
    let n := num <<< (-exponent).toNat
    let d := den <<< exponent.toNat
    let below := n / d
    let twice := 2 * (n % d)
    let rounded := if d < twice ∨ (d = twice ∧ below % 2 = 1) then below + 1 else below
    if rounded = Nat.pow 2 53 then ⟨Nat.pow 2 52, exponent + 1⟩ else ⟨rounded, exponent⟩

/-- Whether a fraction is below the bound of the range, `2 ^ 1024`. -/
def isInRange (x : Fraction) : Bool := x.significand <<< (x.exponent - leastExponent).toNat < 1 <<< 2098

/-- The rounded product. -/
def mul (x y : Fraction) : Fraction := nearest (x.numerator * y.numerator) (x.denominator * y.denominator)

/-- The rounded quotient. -/
def div (x y : Fraction) : Fraction := nearest (x.numerator * y.denominator) (x.denominator * y.numerator)

/-! ## Decimals -/

/-- The greatest power of ten in the range, and the powers below it. -/
def greatestPower : Nat := 308

/-- A rounded power of ten. -/
def tenTo (n : Nat) : Fraction := nearest (Nat.pow 10 n) 1

/-- The fraction that `digits * 10 ^ exponent` is read as, if it is in the range. A division by a power of
ten out of the range is made in two steps. -/
def ofDecimal? (digits : Nat) (exponent : Int) : Option Fraction :=
  let x := nearest digits 1
  let down := (-exponent).toNat
  if digits = 0 then some ⟨0, 0⟩
  else if greatestPower < exponent then none
  else if 0 ≤ exponent then
    let y := x.mul (tenTo exponent.toNat)
    if y.isInRange then some y else none
  else if down ≤ greatestPower then some (x.div (tenTo down))
  else if down ≤ 2 * greatestPower then some ((x.div (tenTo greatestPower)).div (tenTo (down - greatestPower)))
  else some ⟨0, 0⟩

/-- A decimal without zeros at its end. -/
def withoutZeros (digits : Nat) (exponent : Int) : Nat × Int :=
  let zeros := ((Nat.toDigits 10 digits).reverse.takeWhile (· = '0')).length
  (digits / Nat.pow 10 zeros, exponent + zeros)

/-- The digits and the exponent of ten of the shortest decimal that is read as the fraction, and of those of
the nearest; of two that are equally near, the one that ends in an even digit. -/
def decimal (x : Fraction) : Nat × Int :=
  let m := x.significand
  -- the fraction is `exact * 10 ^ e`, and a unit of its significand is `unit * 10 ^ e`
  let unit := if 0 ≤ x.exponent then 1 <<< x.exponent.toNat else Nat.pow 5 (-x.exponent).toNat
  let e := if 0 ≤ x.exponent then 0 else x.exponent
  let exact := m * unit
  -- four times the midpoints; the neighbour below a power of two is half as far away
  let low := (if m = Nat.pow 2 52 ∧ leastExponent < x.exponent then 4 * m - 1 else 4 * m - 2) * unit
  let high := (4 * m + 2) * unit
  let isInside (d : Nat) : Bool :=
    (low < 4 * d || (m % 2 = 0 && low = 4 * d)) && (4 * d < high || (m % 2 = 0 && 4 * d = high))
  let length := (Nat.toDigits 10 exact).length
  let candidate (dropped : Nat) : Option (Nat × Int) :=
    let step := Nat.pow 10 dropped
    let below := exact / step
    let gap := (2 * below + 1) * step
    match isInside (below * step), isInside ((below + 1) * step) with
    | true, true =>
      let isLow := 2 * exact < gap || (2 * exact = gap && below % 2 = 0)
      some (if isLow then below else below + 1, e + dropped)
    | true, false => some (below, e + dropped)
    | false, true => some (below + 1, e + dropped)
    | false, false => none
  if m = 0 then (0, 0)
  else
    let found := (List.range length).reverse.findSome? candidate
    withoutZeros (found.getD (exact, e)).1 (found.getD (exact, e)).2

end Fraction

end HubSearch
