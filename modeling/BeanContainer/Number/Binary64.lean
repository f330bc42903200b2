/-!
# Finite binary floating point numbers

A number with a fraction or an exponent is kept as a finite 64 bit floating point number: a sign, a
mantissa below `2 ^ 53` and a power of two. Arithmetic is exact on natural numbers up to one final
rounding to the nearest such number (`ofRatio?`), so no operation depends on the machine.
-/

namespace BeanContainer

/-- The largest exponent of a finite number. -/
def Binary64.maxExponent : Int := 971

/-- The exponent of the numbers nearest to zero. -/
def Binary64.minExponent : Int := -1074

/-- The number `± mantissa * 2 ^ exponent`. -/
structure Binary64 where
  /-- Whether the number has a minus sign; zero may have one, too. -/
  negative : Bool
  mantissa : Nat
  /-- The power of two that the mantissa counts. -/
  exponent : Int
  /-- The mantissa has 53 bits, or fewer at the lower end of the range, so that each magnitude has
  one form. -/
  canonical : mantissa < Nat.pow 2 53 ∧ exponent ≤ Binary64.maxExponent ∧
    Binary64.minExponent ≤ exponent ∧ (Nat.pow 2 52 ≤ mantissa ∨ exponent = Binary64.minExponent)
  deriving DecidableEq

namespace Binary64

/-- The number with these parts, if they are in range. -/
def ofParts? (negative : Bool) (mantissa : Nat) (exponent : Int) : Option Binary64 :=
  if h : mantissa < Nat.pow 2 53 ∧ exponent ≤ maxExponent ∧ minExponent ≤ exponent ∧
      (Nat.pow 2 52 ≤ mantissa ∨ exponent = minExponent) then
    some ⟨negative, mantissa, exponent, h⟩
  else none

def zero (negative : Bool) : Binary64 :=
  ⟨negative, 0, minExponent, by decide⟩

instance : Inhabited Binary64 := ⟨zero false⟩

def isZero (x : Binary64) : Bool := x.mantissa == 0

def withSign (x : Binary64) (negative : Bool) : Binary64 := { x with negative }

/-- Numerical equality: the two zeros are equal, all else is told apart. -/
instance : BEq Binary64 :=
  ⟨fun x y => x.mantissa == y.mantissa && x.exponent == y.exponent &&
    (x.negative == y.negative || x.isZero)⟩

instance : ReflBEq Binary64 where
  rfl {x} := by
    show (x.mantissa == x.mantissa && x.exponent == x.exponent &&
      (x.negative == x.negative || x.isZero)) = true
    simp

/-- The quotient rounded to the nearest natural number, a half to the even neighbour. -/
def roundDiv (num den : Nat) : Nat :=
  let q := num / den
  let r := num % den
  if 2 * r < den then q
  else if den < 2 * r then q + 1
  else q + q % 2

/-- A power of two with any exponent, as numerator and denominator. -/
def powerOfTwo (e : Int) : Nat × Nat := (Nat.pow 2 e.toNat, Nat.pow 2 (-e).toNat)

/-- The number nearest to `± num / den`, a tie going to the even mantissa; `none` beyond the largest
finite number. -/
def ofRatio? (negative : Bool) (num den : Nat) : Option Binary64 :=
  if num = 0 then some (zero negative)
  else
    -- the quotient is above `2 ^ (k - 1)` and below `2 ^ (k + 1)`
    let k : Int := (num.log2 : Int) - den.log2
    let tooLong (e : Int) : Bool :=
      Nat.pow 2 53 * (den * (powerOfTwo e).1) ≤ num * (powerOfTwo e).2
    let e := if tooLong (k - 53) then k - 52 else k - 53
    let e := max e minExponent
    let m := roundDiv (num * (powerOfTwo e).2) (den * (powerOfTwo e).1)
    if m = Nat.pow 2 53 then ofParts? negative (Nat.pow 2 52) (e + 1) else ofParts? negative m e

/-- The magnitude as numerator and denominator. -/
def magnitude (x : Binary64) : Nat × Nat :=
  (x.mantissa * (powerOfTwo x.exponent).1, (powerOfTwo x.exponent).2)

def ofInt? (n : Int) : Option Binary64 := ofRatio? (n < 0) n.natAbs 1

/-- The number nearest to `x * num / den`. -/
def scale? (x : Binary64) (num den : Nat) : Option Binary64 :=
  ofRatio? x.negative (x.magnitude.1 * num) (x.magnitude.2 * den)

end Binary64

end BeanContainer
