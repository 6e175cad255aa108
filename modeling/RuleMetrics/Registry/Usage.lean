import RuleMetrics.Registry.Basic
import RuleMetrics.Text.Blank
import RuleMetrics.ReadError

/-!
# The text of a type usage

A type usage is written as the name of a type and one pair of brackets for each array dimension,
as in `int[][]`.  Blanks may stand around the whole, before each pair of brackets, and nowhere
else.  At most 255 dimensions are allowed.
-/

namespace RuleMetrics.TypeUsage

/-- The largest number of dimensions. -/
def maxDimensions : Nat := 255

/-- Take the pairs of brackets off a reversed text, and the blanks before each of them: what
remains, and the number of pairs. -/
def stripBrackets : List Char → List Char × Nat
  | ']' :: '[' :: rest =>
    let (base, n) := stripBrackets (rest.dropWhile Text.isBlank)
    (base, n + 1)
  | base => (base, 0)
termination_by reversed => reversed.length
decreasing_by
  have := (List.dropWhile_suffix Text.isBlank (l := rest)).length_le
  simp only [List.length_cons]
  omega

/-- The base name of a usage and the number of its dimensions. -/
def split (text : List Char) : List Char × Nat :=
  let (reversedBase, dimensions) := stripBrackets (Text.trimChars text).reverse
  (reversedBase.reverse, dimensions)

/-- Read a usage, with `lookup` to find its type. -/
def read (lookup : String → Option TypeId) (text : String) : Except ReadError TypeUsage :=
  let (base, dimensions) := split text.toList
  if maxDimensions < dimensions then .error (.invalidFormat text .tooManyDimensions)
  else if base = [] then .error (.invalidFormat text .emptyTypeName)
  else
    let name := String.ofList base
    match lookup name with
    | some id => .ok ⟨id, dimensions⟩
    | none => .error (.unknownType name)

end RuleMetrics.TypeUsage

namespace RuleMetrics.Registry

/-- The type usage that a text means. -/
def resolveUsage (r : Registry) (text : String) : Except ReadError TypeUsage :=
  TypeUsage.read r.resolve text

end RuleMetrics.Registry
