import RuleMetrics.Decimal.Reading
import RuleMetrics.Text.Cut

/-!
# Message templates

A template holds places `{0}`, `{1}` and so on, for as many parameters as there are.  It is taken
apart into tokens before any parameter is looked at, so a parameter that contains braces is
inserted as it is.  A brace that opens no place is kept as it is written.
-/

namespace RuleMetrics.Template

/-- A part of a template. -/
inductive Token where
  /-- A character that stands for itself. -/
  | literal (c : Char)
  /-- A place for the parameter at an index, with the text between its braces. -/
  | slot (written : List Char) (index : Nat)
deriving Repr, DecidableEq

/-- The index that a text between braces means: digits, perhaps after a plus sign. -/
def readIndex? (written : List Char) : Option Nat :=
  match written with
  | '+' :: digits => Decimal.readNat? digits
  | digits => Decimal.readNat? digits

/-- The place that opens before `rest`, if there is one for one of `n` parameters: what is written
between the braces, its index, and what follows. -/
def slot? (n : Nat) (rest : List Char) : Option (List Char × Nat × List Char) :=
  match Text.cut '\x7d' rest with
  | none => none
  | some (written, after) =>
    match readIndex? written with
    | some index => if index < n then some (written, index, after) else none
    | none => none

/-- What follows a place is shorter than what follows its opening brace. -/
theorem length_lt_of_slot? {n index : Nat} {rest written after : List Char}
    (h : slot? n rest = some (written, index, after)) : after.length < rest.length := by
  unfold slot? at h
  split at h
  · exact absurd h (by simp)
  next w a hcut =>
    split at h
    next i _ =>
      split at h
      · simp only [Option.some.injEq, Prod.mk.injEq] at h
        rw [← h.2.2]
        exact Text.length_lt_of_cut hcut
      · exact absurd h (by simp)
    · exact absurd h (by simp)

/-- The tokens of a template for `n` parameters. -/
def tokens (n : Nat) (template : List Char) : List Token :=
  match template with
  | [] => []
  | c :: rest =>
    if c = '\x7b' then
      match h : slot? n rest with
      | some (written, index, after) =>
        have := length_lt_of_slot? h
        .slot written index :: tokens n after
      | none => .literal c :: tokens n rest
    else .literal c :: tokens n rest
termination_by template.length
decreasing_by all_goals simp only [List.length_cons]; omega

/-- A token with its parameter put in. -/
def Token.fill (parameters : List String) : Token → List Char
  | .literal c => [c]
  | .slot _ index => (parameters[index]?.getD "").toList

/-- A template with the parameters put into its places. -/
def format (template : String) (parameters : List String) : String :=
  String.ofList ((tokens parameters.length template.toList).flatMap (Token.fill parameters))

end RuleMetrics.Template
