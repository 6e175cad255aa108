import RuleMetrics.Decimal.Layout

/-!
# The nearest double

The double nearest to a decimal, and to any positive fraction; of two equally near doubles it is
the one with the even mantissa.  All arithmetic is exact, on natural numbers.

The result is given by its bits without the sign, which number the doubles from zero upwards.  So a
mantissa that is rounded up to a power of two carries over into the exponent, and from the largest
double into infinity.
-/

namespace RuleMetrics.Decimal

/-- The bits of infinity. -/
def infinityBits : Nat := 0x7FF0000000000000

/-- The bits of the value that is not a number. -/
def nanBits : Nat := 0x7FF8000000000000

/-- A fraction rounded to a natural number, a half to the even one. -/
def roundHalfEven (num den : Nat) : Nat :=
  let floor := num / den
  match compare (2 * (num % den)) den with
  | .lt => floor
  | .eq => floor + floor % 2
  | .gt => floor + 1

/-- The place of the leading binary digit of a positive fraction: the places of the leading digits
of its two parts leave a choice of two. -/
def leadingPlace (num den : Nat) : Int :=
  let place : Int := num.log2 - den.log2
  if num * Nat.pow 2 (-place).toNat < den * Nat.pow 2 place.toNat then place - 1 else place

/-- The bits of the double nearest to a positive fraction.  Doubles around it are multiples of
`2 ^ spacing`. -/
def nearestBits (num den : Nat) : Nat :=
  let spacing : Int := max (-1074) (leadingPlace num den - 52)
  let mantissa :=
    roundHalfEven (num * Nat.pow 2 (-spacing).toNat) (den * Nat.pow 2 spacing.toNat)
  min infinityBits ((spacing + 1074).toNat * Nat.pow 2 52 + mantissa)

/-- The bits of the double nearest to a decimal.  Beyond the range of doubles the power of ten is
not computed. -/
def Scaled.nearestBits (d : Scaled) : Nat :=
  let top := d.exponent + (natDigits d.digits).length
  if d.digits = 0 ∨ top < -400 then 0
  else if 400 < top then infinityBits
  else
    Decimal.nearestBits (d.digits * Nat.pow 10 d.exponent.toNat)
      (Nat.pow 10 (-d.exponent).toNat)

/-- The double with the given sign and with the given bits apart from it. -/
def floatOfBits (negative : Bool) (bits : Nat) : Float :=
  Float.ofBits (UInt64.ofNat (if negative then Nat.pow 2 63 + bits else bits))

end RuleMetrics.Decimal
