import RuleMetrics.Text.CodeRange

/-!
# Blank characters and trimming

The twenty-five characters with the Unicode property `White_Space`, and what it means to trim a
text: blanks are dropped from its ends and kept inside.
-/

namespace RuleMetrics.Text

/-- The characters with the property `White_Space`. -/
def blankRanges : List CodeRange :=
  [(0x09, 0x0D), (0x20, 0x20), (0x85, 0x85), (0xA0, 0xA0), (0x1680, 0x1680), (0x2000, 0x200A),
    (0x2028, 0x2029), (0x202F, 0x202F), (0x205F, 0x205F), (0x3000, 0x3000)]

/-- Whether a character is blank. -/
def isBlank (c : Char) : Bool :=
  CodeRange.covers blankRanges c

/-! ## Characters -/

/-- Drop the blanks in front. -/
def trimStartChars (cs : List Char) : List Char :=
  cs.dropWhile isBlank

/-- Drop the blanks at the end. -/
def trimEndChars (cs : List Char) : List Char :=
  (cs.reverse.dropWhile isBlank).reverse

/-- Drop the blanks at both ends. -/
def trimChars (cs : List Char) : List Char :=
  trimEndChars (trimStartChars cs)

/-- Whether there is nothing but blanks. -/
def allBlank (cs : List Char) : Bool :=
  cs.all isBlank

/-! ## Texts -/

/-- Drop the blanks at both ends of a text. -/
def trim (s : String) : String :=
  String.ofList (trimChars s.toList)

/-- Whether a text holds nothing but blanks. -/
def isBlankText (s : String) : Bool :=
  allBlank s.toList

end RuleMetrics.Text
