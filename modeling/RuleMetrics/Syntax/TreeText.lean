import RuleMetrics.Decimal.Reading
import RuleMetrics.Syntax.Tree
import RuleMetrics.Text.Cut

/-!
# Syntax trees as text

A syntax tree is kept in a text with one line for each node, in preorder: the depth, the kind, the
field or a hyphen, the byte positions where the node starts and ends, the row, counted from zero,
and whether the node is named, as one or zero.  Single blanks stand between them.
-/

namespace RuleMetrics.SyntaxTree

/-- Read a line; `content` is the file that the tree describes. -/
def entryOfLine? (content : ByteArray) (line : String) : Option Entry := do
  let number (s : String) : Option Nat := Decimal.readNat? s.toList
  match Text.piecesOf ' ' line with
  | [depth, kind, field, start, stop, row, named] =>
    return {
      depth := ← number depth
      label :=
        { kind
          field := if field = "-" then none else some field
          text := textBetween content (← number start) (← number stop)
          row := ← number row
          named := named = "1" } }
  | _ => none

/-- Read a tree.  Lines that describe no node are passed over. -/
def ofText (content : ByteArray) (text : String) : List SyntaxTree :=
  ofPreorder ((Text.piecesOf '\n' text).filterMap (entryOfLine? content))

end RuleMetrics.SyntaxTree
