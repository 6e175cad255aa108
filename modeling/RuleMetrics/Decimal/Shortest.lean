import RuleMetrics.Decimal.Binary

/-!
# The fewest digits that read back

A double stands for an interval of reals: those that round to it.  Its shortest decimal is found
on the coarsest decimal grid that has a point in the interval.  On that grid the two neighbours of
the value are tried and the nearer one wins; when both are equally near, the writer's tie rule
decides.  All comparisons are exact, between natural numbers.
-/

namespace RuleMetrics.Decimal

/-- The decimal `digits · 10 ^ exponent`. -/
structure Scaled where
  digits : Nat
  exponent : Int
deriving Repr, DecidableEq

/-- Which of two equally near decimals is written. -/
inductive Tie where
  /-- The one with the even last digit. -/
  | toEven
  /-- The larger one. -/
  | up
deriving Repr, DecidableEq

/-- Compare `a · 10 ^ i` with `n · 2 ^ j`. -/
def compareScaled (a : Nat) (i : Int) (n : Nat) (j : Int) : Ordering :=
  compare (a * Nat.pow 10 i.toNat * Nat.pow 2 (-j).toNat)
    (n * Nat.pow 2 j.toNat * Nat.pow 10 (-i).toNat)

/-- Whether a decimal rounds to the value `x`: it lies in the interval of `x`, whose ends belong to
it exactly when the mantissa is even. -/
def Binary.readsBack (x : Binary) (d : Scaled) : Bool :=
  let low := if x.narrowBelow then 4 * x.mantissa - 1 else 4 * x.mantissa - 2
  let high := 4 * x.mantissa + 2
  let closed := x.mantissa % 2 == 0
  let atLow := compareScaled d.digits d.exponent low (x.exponent - 2)
  let atHigh := compareScaled d.digits d.exponent high (x.exponent - 2)
  (atLow == .gt || (closed && atLow == .eq)) && (atHigh == .lt || (closed && atHigh == .eq))

/-- The largest multiple of `10 ^ grid` that is not above the value. -/
def Binary.floorOn (x : Binary) (grid : Int) : Nat :=
  (x.mantissa * Nat.pow 2 x.exponent.toNat * Nat.pow 10 (-grid).toNat) /
    (Nat.pow 10 grid.toNat * Nat.pow 2 (-x.exponent).toNat)

/-- The neighbour of `x` on the grid that is written, if one of the two reads back. -/
def Binary.onGrid (tie : Tie) (x : Binary) (grid : Int) : Option Scaled :=
  let floor := x.floorOn grid
  let lower : Scaled := ⟨floor, grid⟩
  let upper : Scaled := ⟨floor + 1, grid⟩
  match x.readsBack lower, x.readsBack upper with
  | false, false => none
  | true, false => some lower
  | false, true => some upper
  | true, true =>
    match compareScaled (2 * floor + 1) grid (2 * x.mantissa) x.exponent with
    | .lt => some upper
    | .gt => some lower
    | .eq =>
      match tie with
      | .up => some upper
      | .toEven => if floor % 2 = 0 then some lower else some upper

/-- The decimal of a positive value on the first of some grids that has one.  The exact value is
the last resort. -/
def Binary.onFirst (tie : Tie) (x : Binary) (grids : List Int) : Scaled :=
  match grids.findSome? (x.onGrid tie) with
  | some d => d
  | none =>
    ⟨x.mantissa * Nat.pow 2 x.exponent.toNat * Nat.pow 5 (-x.exponent).toNat, min x.exponent 0⟩

/-- The grids from that of the largest double down to that of the smallest. -/
def grids : List Int :=
  (List.range 634).map fun (n : Nat) => 309 - (n : Int)

/-- The shortest decimal of a positive value.  The finest grid is narrower than every interval, so
the search ends before the exact value is needed. -/
def Binary.shortest (tie : Tie) (x : Binary) : Scaled :=
  x.onFirst tie grids

end RuleMetrics.Decimal
