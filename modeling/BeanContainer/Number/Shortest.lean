import BeanContainer.Number.Binary64
/-!
# The shortest decimal of a binary number

Among the decimals that are nearer to a binary number than to any other one, `shortest` takes those
with the fewest digits and of these the nearest. It tests, for 1, 2, … digits, the two neighbours of
the number on that decimal grid, in exact arithmetic: if any point of a grid reads back as the
number then so does one of these two.
-/

namespace BeanContainer

/-- The decimal `digits * 10 ^ exponent`. -/
structure Decimal where
  digits : Nat
  exponent : Int
  deriving DecidableEq, Repr

namespace Decimal

def digitCount (n : Nat) : Nat := (Nat.toDigits 10 n).length

/-- A power of ten with any exponent, as numerator and denominator. -/
def powerOfTen (e : Int) : Nat × Nat := (Nat.pow 10 e.toNat, Nat.pow 10 (-e).toNat)

/-- Drop the zeros at the end of the digits, at most `fuel` of them. -/
def stripZeros : Nat → Decimal → Decimal
  | 0, d => d
  | fuel + 1, d =>
    if d.digits ≠ 0 ∧ d.digits % 10 = 0 then stripZeros fuel ⟨d.digits / 10, d.exponent + 1⟩ else d

/-- The exponent `k` with `10 ^ (k - 1) ≤ num / den < 10 ^ k`, for a positive quotient. -/
def magnitudeExponent (num den : Nat) : Int :=
  if den ≤ num then digitCount (num / den) else 1 - (digitCount ((den - 1) / num) : Int)

/-- The decimals that read back as `x`: the interval around it, in quarters of the last bit. Its
ends belong to it when the mantissa is even. -/
def roundingInterval (x : Binary64) : Nat × Nat :=
  let m := 4 * x.mantissa
  -- below a power of two the neighbour is half as far away
  let below := if x.mantissa = Nat.pow 2 52 ∧ Binary64.minExponent < x.exponent then 1 else 2
  (m - below, m + 2)

/-- The nearest decimal with `n` digits that reads back as `x`, if there is one. -/
def ofDigitCount? (x : Binary64) (n : Nat) : Option Decimal :=
  let p := magnitudeExponent x.magnitude.1 x.magnitude.2 - n
  -- `c * 10 ^ p` and `q` quarters of the last bit compare as `c * ten` and `q * quarter`
  let ten := (powerOfTen p).1 * (Binary64.powerOfTwo (x.exponent - 2)).2
  let quarter := (powerOfTen p).2 * (Binary64.powerOfTwo (x.exponent - 2)).1
  let value := 4 * x.mantissa * quarter
  let low := (roundingInterval x).1 * quarter
  let high := (roundingInterval x).2 * quarter
  let readsBack (c : Nat) : Bool :=
    if x.mantissa % 2 = 0 then low ≤ c * ten && c * ten ≤ high
    else low < c * ten && c * ten < high
  let floor := value / ten
  let nearest := Binary64.roundDiv value ten
  let other := if nearest = floor then floor + 1 else floor
  if readsBack nearest then some ⟨nearest, p⟩
  else if readsBack other then some ⟨other, p⟩
  else none

/-- The shortest decimal of the magnitude of `x`, without zeros at the end. Seventeen digits tell
all binary numbers apart. -/
def shortest (x : Binary64) : Decimal :=
  if x.isZero then ⟨0, 0⟩
  else
    let found := (List.range 17).findSome? fun n => ofDigitCount? x (n + 1)
    stripZeros 20 (found.getD ⟨x.mantissa, 0⟩)

end Decimal

end BeanContainer
