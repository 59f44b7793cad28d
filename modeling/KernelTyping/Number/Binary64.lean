set_option autoImplicit false

/-! # Binary floating-point numbers of 64 bits

The finite numbers of the format without their sign, as exact rationals: a significand of at
most 53 bits times a power of two. `nearest?` rounds a rational to the nearest of them, a tie
to the even significand, and refuses what lies beyond the greatest; `times?` and `over?` round
the exact product and quotient once. -/

namespace KernelTyping

/-- The number of digits before the point, less one: the greatest `k` with `base ^ k ≤ v`, for
a positive rational. The lengths of numerator and denominator leave two choices. -/
def leadingExponent (base : Nat) (v : Rat) : Int :=
  let guess : Int :=
    (Nat.toDigits base v.num.toNat).length - (Nat.toDigits base v.den).length
  if (base : Rat) ^ guess ≤ v then guess else guess - 1

/-- The integer nearest to a rational; of two that are equally near, the even one. -/
def roundEven (v : Rat) : Int :=
  let below := v.floor
  let beyond := v - below
  if beyond < 1 / 2 then below
  else if 1 / 2 < beyond then below + 1
  else if below % 2 = 0 then below
  else below + 1

/-- A finite number without its sign: a significand and the exponent of two. -/
structure Binary64 where
  significand : Nat
  exponent : Int
  deriving DecidableEq

namespace Binary64

/-- The least exponent; the significands below `2 ^ 52` occur only with it. -/
def minExponent : Int := -1074

/-- The greatest exponent of a finite number. -/
def maxExponent : Int := 971

/-- The number as a rational. -/
def value (x : Binary64) : Rat := x.significand * 2 ^ x.exponent

/-- Zero. -/
def zero : Binary64 := ⟨0, minExponent⟩

/-- The number nearest to a rational that is not negative, unless it lies beyond the greatest
finite number. -/
def nearest? (v : Rat) : Option Binary64 :=
  if v = 0 then some zero
  else
    let exponent := max (leadingExponent 2 v - 52) minExponent
    let significand := (roundEven (v / 2 ^ exponent)).toNat
    -- rounding up may carry into a place that the significand does not have
    let rounded : Binary64 :=
      if significand = 1 <<< 53 then ⟨1 <<< 52, exponent + 1⟩ else ⟨significand, exponent⟩
    if rounded.exponent ≤ maxExponent then some rounded else none

/-- The product of two numbers, rounded once. -/
def times? (x y : Binary64) : Option Binary64 := nearest? (x.value * y.value)

/-- The quotient of two numbers, rounded once. -/
def over? (x y : Binary64) : Option Binary64 := nearest? (x.value / y.value)

/-- The number nearest to a power of ten. -/
def powerOfTen? (k : Nat) : Option Binary64 := nearest? (10 ^ k)

/-- The greatest power of ten that is tabulated, `10 ^ 308`, is below the greatest number. -/
def maxPowerOfTen : Nat := 308

/-- Divides by a power of ten, in steps of at most `10 ^ 308`, each rounded. -/
def shrink? (x : Binary64) (k : Nat) : Option Binary64 :=
  if k ≤ maxPowerOfTen then (powerOfTen? k).bind x.over?
  else if x.significand = 0 then some x
  else
    ((powerOfTen? maxPowerOfTen).bind x.over?).bind fun smaller =>
      smaller.shrink? (k - maxPowerOfTen)
termination_by k
decreasing_by
  simp only [maxPowerOfTen] at *
  omega

/-- Multiplies by a power of ten, rounded, unless the product is too great. -/
def grow? (x : Binary64) (k : Nat) : Option Binary64 :=
  if k ≤ maxPowerOfTen then (powerOfTen? k).bind x.times?
  else if x.significand = 0 then some x
  else none

/-- The number of a decimal `significand * 10 ^ exponent`: the significand is rounded first,
then multiplied or divided by a rounded power of ten. -/
def ofDecimal? (significand : Nat) : Int → Option Binary64
  | .ofNat k => (nearest? significand).bind fun x => x.grow? k
  | .negSucc k => (nearest? significand).bind fun x => x.shrink? (k + 1)

end Binary64

end KernelTyping
