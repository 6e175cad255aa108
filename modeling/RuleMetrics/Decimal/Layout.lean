import RuleMetrics.Decimal.Shortest

/-!
# Writing numbers

Doubles are written in two ways, both with the fewest digits that read back.  In messages and
property texts a number is positional whatever its size, and a whole number has no point.  The
text of a number that a document holds has a point or an exponent, so that it stays a
floating-point number when the document is read again.
-/

namespace RuleMetrics.Decimal

/-- The digits of a natural number in base ten. -/
def natDigits (n : Nat) : List Char :=
  Nat.toDigits 10 n

/-- An integer in base ten. -/
def intText (n : Int) : String :=
  match n with
  | .ofNat n => String.ofList (natDigits n)
  | .negSucc n => String.ofList ('-' :: natDigits (n + 1))

/-- `n` zeros. -/
def zeros (n : Nat) : List Char :=
  List.replicate n '0'

/-- A decimal without an exponent: digits, then a point only where a fraction follows. -/
def Scaled.positional (d : Scaled) : List Char :=
  let digits := natDigits d.digits
  if 0 ≤ d.exponent then digits ++ zeros d.exponent.toNat
  else
    let places := (-d.exponent).toNat
    if places < digits.length then
      digits.take (digits.length - places) ++ '.' :: digits.drop (digits.length - places)
    else '0' :: '.' :: zeros (places - digits.length) ++ digits

/-- A decimal with a point or an exponent: positional when its leading digit stands between the
fifth place after the point and the sixteenth before it. -/
def Scaled.marked (d : Scaled) : List Char :=
  let digits := natDigits d.digits
  let point : Int := digits.length + d.exponent
  if 0 ≤ d.exponent ∧ point ≤ 16 then digits ++ zeros d.exponent.toNat ++ ['.', '0']
  else if -5 < point ∧ point ≤ 16 then d.positional
  else
    let exponent := 'e' :: (intText (point - 1)).toList
    match digits with
    | lead :: second :: rest => lead :: '.' :: second :: rest ++ exponent
    | short => short ++ exponent

/-- The sign in front of a text. -/
def signed (negative : Bool) (text : List Char) : String :=
  String.ofList (if negative then '-' :: text else text)

/-- A number in messages and property texts.  Of two equally near decimals the larger is
written. -/
def floatText (x : Float) : String :=
  match Double.ofFloat x with
  | .nan => "NaN"
  | .infinite negative => signed negative "inf".toList
  | .finite negative value =>
    if value.mantissa = 0 then signed negative ['0']
    else signed negative (value.shortest .up).positional

/-- A number in a document.  Of two equally near decimals the even one is written. -/
def documentFloatText (x : Float) : String :=
  match Double.ofFloat x with
  | .nan => ".nan"
  | .infinite negative => signed negative ".inf".toList
  | .finite negative value =>
    if value.mantissa = 0 then signed negative "0.0".toList
    else signed negative (value.shortest .toEven).marked

/-- The largest and smallest integers of sixty-four bits with a sign. -/
def maxInt64 : Int := 0x7FFFFFFFFFFFFFFF

@[inherit_doc maxInt64]
def minInt64 : Int := -0x8000000000000000

/-- The number of values that sixty-four bits have. -/
def wordCount : Nat := 0x10000000000000000

/-- The integer part of a double, held within sixty-four bits; zero for NaN. -/
def truncate (x : Float) : Int :=
  match Double.ofFloat x with
  | .nan => 0
  | .infinite negative => if negative then minInt64 else maxInt64
  | .finite negative value =>
    let whole : Nat :=
      value.mantissa * Nat.pow 2 value.exponent.toNat / Nat.pow 2 (-value.exponent).toNat
    max minInt64 (min maxInt64 (if negative then -(whole : Int) else (whole : Int)))

end RuleMetrics.Decimal
