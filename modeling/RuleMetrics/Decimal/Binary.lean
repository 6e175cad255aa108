/-!
# Doubles as exact binary numbers

A finite double is `± mantissa · 2 ^ exponent`.  This module reads the three parts off the bits,
and orders doubles by their bits: the total order places `-0` below `0` and every value of
negative sign below every value of positive sign, while the numeric order does not tell the two
zeros apart.  Stated on bits, both orders are orders of integers.
-/

namespace RuleMetrics.Decimal

/-- A finite value without its sign: `mantissa · 2 ^ exponent`. -/
structure Binary where
  mantissa : Nat
  exponent : Int
  /-- The gap to the value below is half as wide as the gap to the value above. -/
  narrowBelow : Bool
deriving Repr, DecidableEq

/-- The kinds of double, each with the sign where it has one. -/
inductive Double where
  | nan
  | infinite (negative : Bool)
  | finite (negative : Bool) (value : Binary)
deriving Repr, DecidableEq

/-- Whether the sign bit is set. -/
def signBit (bits : UInt64) : Bool :=
  bits >>> 63 == 1

/-- The double without its sign bit. -/
def magnitudeBits (bits : UInt64) : Nat :=
  (bits &&& 0x7FFFFFFFFFFFFFFF).toNat

/-- Read a double off its bits. -/
def Double.ofBits (bits : UInt64) : Double :=
  let biased := ((bits >>> 52) &&& 0x7FF).toNat
  let fraction := (bits &&& 0xFFFFFFFFFFFFF).toNat
  if biased = 0x7FF then
    if fraction = 0 then .infinite (signBit bits) else .nan
  else if biased = 0 then
    .finite (signBit bits) ⟨fraction, -1074, false⟩
  else
    .finite (signBit bits)
      ⟨Nat.pow 2 52 + fraction, (biased : Int) - 1075,
        decide (fraction = 0) && decide (1 < biased)⟩

/-- The parts of a floating-point number. -/
def Double.ofFloat (x : Float) : Double :=
  Double.ofBits x.toBits

/-- The double nearest to a natural number.  Below `2 ^ 53` it is the number itself, and its bits
are the place of the leading digit followed by the other digits. -/
def floatOfNat (n : Nat) : Float :=
  if n = 0 then Float.ofBits 0
  else if n < Nat.pow 2 53 then
    let place := n.log2
    Float.ofBits (UInt64.ofNat ((place + 1022) * Nat.pow 2 52 + n * Nat.pow 2 (52 - place)))
  else Float.ofNat n

/-! ## Order -/

/-- The place of a double in the total order of all bit patterns. -/
def totalKey (x : Float) : Int :=
  let magnitude : Int := magnitudeBits x.toBits
  if signBit x.toBits then -magnitude - 1 else magnitude

/-- The place of a double that is not NaN in the numeric order. -/
def numericKey (x : Float) : Int :=
  let magnitude : Int := magnitudeBits x.toBits
  if signBit x.toBits then -magnitude else magnitude

/-- Whether a double is not a number. -/
def isNaN (x : Float) : Bool :=
  decide (0x7FF0000000000000 < magnitudeBits x.toBits)

/-- Whether a double is a number other than the infinities. -/
def isFinite (x : Float) : Bool :=
  decide (magnitudeBits x.toBits < 0x7FF0000000000000)

/-- The numeric comparison `x ≤ y`, false when either is NaN. -/
def atMost (x y : Float) : Bool :=
  !isNaN x && !isNaN y && decide (numericKey x ≤ numericKey y)

/-- The numeric comparison `x < y`, false when either is NaN. -/
def below (x y : Float) : Bool :=
  !isNaN x && !isNaN y && decide (numericKey x < numericKey y)

/-- The place of a single-precision number in the total order of all bit patterns. -/
def totalKey32 (x : Float32) : Int :=
  let magnitude : Int := (x.toBits &&& 0x7FFFFFFF).toNat
  if x.toBits >>> 31 == 1 then -magnitude - 1 else magnitude

end RuleMetrics.Decimal
