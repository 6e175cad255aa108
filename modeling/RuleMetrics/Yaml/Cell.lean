/-!
# The characters of a YAML text

A YAML text is read as a list of cells, characters with their line and column and their place among
the bytes.  Line breaks are made alike first, so that every break is one cell, and characters that
YAML forbids are refused.
-/

namespace RuleMetrics.Yaml

/-- Why a text is not a YAML document. -/
inductive YamlError where
  | forbiddenCharacter
  | unexpectedCharacter
  | tabInIndentation
  | unterminatedScalar
  | documentMarkInScalar
  | invalidEscape
  | invalidBlockHeader
  | invalidDirective
  | invalidTag
  | undefinedTagHandle
  | invalidAnchor
  | unknownAnchor
  | misplacedEntry
  | misplacedKey
  | misplacedValue
  | missingColon
  | unexpectedToken
  | severalDocuments
  /-- A bound that grows with the text was passed. -/
  | tooDeep
deriving Repr, DecidableEq

/-- The wording of an error. -/
def YamlError.message : YamlError → String
  | forbiddenCharacter => "a control character is not allowed"
  | unexpectedCharacter => "a character cannot start any token"
  | tabInIndentation => "a tab is used for indentation"
  | unterminatedScalar => "a quoted scalar does not end"
  | documentMarkInScalar => "a document mark stands inside a scalar"
  | invalidEscape => "an escape is not known"
  | invalidBlockHeader => "the header of a block scalar is not valid"
  | invalidDirective => "a directive is not valid"
  | invalidTag => "a tag is not valid"
  | undefinedTagHandle => "the handle of a tag is not defined"
  | invalidAnchor => "the name of an anchor is not valid"
  | unknownAnchor => "an alias names no anchor"
  | misplacedEntry => "a list entry is not allowed here"
  | misplacedKey => "a key is not allowed here"
  | misplacedValue => "a value is not allowed here"
  | missingColon => "a key has no colon"
  | unexpectedToken => "a token is not expected here"
  | severalDocuments => "there is more than one document"
  | tooDeep => "collections are nested too deeply"

/-- A character and its place.  Lines, columns and bytes are counted from zero. -/
structure Cell where
  char : Char
  line : Nat
  column : Nat
  /-- The number of bytes before it. -/
  offset : Nat
deriving Repr, DecidableEq

/-- Whether YAML allows a character in a text. -/
def isAllowed (c : Char) : Bool :=
  let n := c.toNat
  n == 0x09 || n == 0x0A || n == 0x0D || n == 0x85 ||
    (decide (0x20 ≤ n) && decide (n ≤ 0x7E)) ||
    (decide (0xA0 ≤ n) && decide (n ≤ 0xFFFD)) || decide (0x10000 ≤ n)

/-- Write every line break that is not of the two Unicode separators as a line feed. -/
def unifyBreaks : List Char → List Char
  | [] => []
  | '\r' :: '\n' :: rest => '\n' :: unifyBreaks rest
  | '\r' :: rest => '\n' :: unifyBreaks rest
  | '\u0085' :: rest => '\n' :: unifyBreaks rest
  | c :: rest => c :: unifyBreaks rest

/-- Whether a character ends a line. -/
def isBreak (c : Char) : Bool :=
  c == '\n' || c == '\u2028' || c == '\u2029'

/-- Whether a character is a space or a tab. -/
def isSpace (c : Char) : Bool :=
  c == ' ' || c == '\t'

/-- Give the characters their places, from a place on. -/
def place (line column offset : Nat) : List Char → List Cell
  | [] => []
  | c :: rest =>
    let next := offset + c.utf8Size
    ⟨c, line, column, offset⟩ ::
      if isBreak c then place (line + 1) 0 next rest else place line (column + 1) next rest

/-- The cells of a text. -/
def cells (text : String) : Except YamlError (List Cell) :=
  let characters := text.toList
  if characters.all isAllowed then .ok (place 0 0 0 (unifyBreaks characters))
  else .error .forbiddenCharacter

/-- Whether the text ends here, or the next character is a space, a tab or a break. -/
def atGap (rest : List Cell) : Bool :=
  match rest with
  | [] => true
  | c :: _ => isSpace c.char || isBreak c.char

/-- Whether a line starts here with the mark of a document's start or end. -/
def atDocumentMark (rest : List Cell) : Bool :=
  match rest with
  | a :: b :: c :: after =>
    a.column == 0 && (a.char == '-' || a.char == '.') && b.char == a.char && c.char == a.char &&
      atGap after
  | _ => false

/-- Drop cells while their characters pass a test. -/
def dropChars (test : Char → Bool) (rest : List Cell) : List Cell :=
  rest.dropWhile fun c => test c.char

/-- The characters of the cells in front that pass a test. -/
def takeChars (test : Char → Bool) (rest : List Cell) : List Char :=
  (rest.takeWhile fun c => test c.char).map Cell.char

/-- Whether a character can be part of the name of an anchor or a directive. -/
def isWordChar (c : Char) : Bool :=
  c.isAlphanum || c == '_' || c == '-'

/-- The value of a hexadecimal digit. -/
def hexDigit? (c : Char) : Option Nat :=
  if c.isDigit then some (c.toNat - '0'.toNat)
  else if 'a' ≤ c ∧ c ≤ 'f' then some (c.toNat - 'a'.toNat + 10)
  else if 'A' ≤ c ∧ c ≤ 'F' then some (c.toNat - 'A'.toNat + 10)
  else none

end RuleMetrics.Yaml
