import RuleMetrics.Text.Hidden

/-!
# Quoted texts and characters

Messages quote the texts they speak about.  The quote and the backslash are escaped by a
backslash, four control characters have short names, and every other hidden character is written
by its code point in lower-case hexadecimal.
-/

namespace RuleMetrics.Text

/-- One character inside quotes of the kind `mark`. -/
def escapeChar (mark : Char) (c : Char) : List Char :=
  if c = mark || c = '\\' then ['\\', c]
  else if c = '\x00' then ['\\', '0']
  else if c = '\t' then ['\\', 't']
  else if c = '\n' then ['\\', 'n']
  else if c = '\r' then ['\\', 'r']
  else if isHidden c then
    ['\\', 'u', '\x7b'] ++ Nat.toDigits 16 c.toNat ++ ['\x7d']
  else [c]

/-- A text between double quotes. -/
def quote (s : String) : String :=
  String.ofList ('"' :: s.toList.flatMap (escapeChar '"') ++ ['"'])

/-- A path between double quotes.  Quotes of both kinds are escaped. -/
def quotePath (s : String) : String :=
  String.ofList
    ('"' :: s.toList.flatMap (fun c => if c = '\x27' then ['\\', c] else escapeChar '"' c) ++ ['"'])

/-- A character between single quotes. -/
def quoteChar (c : Char) : String :=
  String.ofList ('\x27' :: escapeChar '\x27' c ++ ['\x27'])

end RuleMetrics.Text
