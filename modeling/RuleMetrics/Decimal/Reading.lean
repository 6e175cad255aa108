import RuleMetrics.Decimal.Nearest

/-!
# Reading numbers

The spellings of integers and of floating-point numbers in property texts.  An integer is decimal
digits after an optional sign and must fit in sixty-four bits.  A floating-point number is digits
with an optional point and an optional exponent, or one of the words `inf`, `infinity` and `nan`
in any case, after an optional sign; it becomes the nearest double.
-/

namespace RuleMetrics.Decimal

/-- The value of a non-empty list of ASCII digits. -/
def readNat? (cs : List Char) : Option Nat :=
  if cs.isEmpty || !cs.all Char.isDigit then none
  else some (cs.foldl (fun n c => 10 * n + (c.toNat - '0'.toNat)) 0)

/-- An optional sign, and what follows it. -/
def splitSign (cs : List Char) : Bool × List Char :=
  match cs with
  | '-' :: rest => (true, rest)
  | '+' :: rest => (false, rest)
  | rest => (false, rest)

/-- An integer of sixty-four bits. -/
def readInt? (s : String) : Option Int :=
  let (negative, digits) := splitSign s.toList
  match readNat? digits with
  | none => none
  | some n =>
    let value : Int := if negative then -n else n
    if minInt64 ≤ value ∧ value ≤ maxInt64 then some value else none

/-! ## Floating-point numbers -/

/-- The exponent at the end of a number: nothing, or a letter and a signed number. -/
def readExponent? (cs : List Char) : Option Int :=
  match cs with
  | [] => some 0
  | c :: rest =>
    if c = 'e' ∨ c = 'E' then
      let (negative, digits) := splitSign rest
      (readNat? digits).map fun n => if negative then -(n : Int) else n
    else none

/-- The digits that a text starts with, and the rest. -/
def spanDigits (cs : List Char) : List Char × List Char :=
  (cs.takeWhile Char.isDigit, cs.dropWhile Char.isDigit)

/-- A number without a sign: at least one digit before or after an optional point. -/
def readUnsigned? (cs : List Char) : Option Scaled :=
  let (whole, rest) := spanDigits cs
  let (fraction, rest) :=
    match rest with
    | '.' :: after => spanDigits after
    | other => ([], other)
  match readNat? (whole ++ fraction), readExponent? rest with
  | some digits, some exponent => some ⟨digits, exponent - fraction.length⟩
  | _, _ => none

/-- The bits of a value that has no digits, by its word. -/
def readWord? (cs : List Char) : Option Nat :=
  match cs.map Char.toLower with
  | ['i', 'n', 'f'] => some infinityBits
  | ['i', 'n', 'f', 'i', 'n', 'i', 't', 'y'] => some infinityBits
  | ['n', 'a', 'n'] => some nanBits
  | _ => none

/-- A floating-point number. -/
def readFloat? (s : String) : Option Float :=
  let (negative, rest) := splitSign s.toList
  let magnitude :=
    match readWord? rest with
    | some bits => some bits
    | none => (readUnsigned? rest).map Scaled.nearestBits
  magnitude.map (floatOfBits negative)

end RuleMetrics.Decimal
