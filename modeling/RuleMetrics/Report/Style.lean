/-!
# Styled text

Text for a terminal.  A style is switched on before the text and off after it, unless colors are
left out.  Padding belongs to the styled text.
-/

namespace RuleMetrics

/-- Whether text is styled. -/
inductive ColorMode where
  | plain
  | colored
deriving Repr, DecidableEq

/-- A style of text. -/
inductive TextStyle where
  | bold
  | dimmed
  | red
  | green
  | yellow
  | blue
  | boldCyan
  | boldRed
deriving Repr, DecidableEq

namespace TextStyle

/-- The codes of a style. -/
def codes : TextStyle → String
  | bold => "1"
  | dimmed => "2"
  | red => "31"
  | green => "32"
  | yellow => "33"
  | blue => "34"
  | boldCyan => "1;36"
  | boldRed => "1;31"

/-- Switches a style on. -/
def switchOn (s : TextStyle) : String :=
  "\x1b[" ++ s.codes ++ "m"

/-- Switches every style off. -/
def switchOff : String := "\x1b[0m"

/-- A text that has a style again after each place where it switches styles off itself. -/
def resumed (s : TextStyle) : List Char → List Char
  | [] => []
  | '\x1b' :: '[' :: '0' :: 'm' :: rest =>
    switchOff.toList ++ s.switchOn.toList ++ s.resumed rest
  | c :: rest => c :: s.resumed rest

end TextStyle

/-- A text with blanks after it, up to a number of characters. -/
def padded (width : Nat) (text : String) : String :=
  text ++ String.ofList (List.replicate (width - text.length) ' ')

/-- A text in a style, padded to a width. -/
def styledTo (mode : ColorMode) (style : TextStyle) (width : Nat) (text : String) : String :=
  match mode with
  | .plain => padded width text
  | .colored =>
    style.switchOn ++ padded width (String.ofList (style.resumed text.toList)) ++
      TextStyle.switchOff

/-- A text in a style. -/
def styled (mode : ColorMode) (style : TextStyle) (text : String) : String :=
  styledTo mode style 0 text

end RuleMetrics
