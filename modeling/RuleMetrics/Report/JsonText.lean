import RuleMetrics.Decimal.Layout

/-!
# JSON texts

The values that reports are made of, and their layout: two blanks for each level, one entry to a
line, and nothing between the brackets of an empty list.
-/

namespace RuleMetrics

/-- A value of a report. -/
inductive JsonValue where
  | text (s : String)
  | number (n : Nat)
  | bool (b : Bool)
  | list (items : List JsonValue)
  /-- Fields in the order in which they are written. -/
  | object (fields : List (String × JsonValue))

namespace JsonValue

/-- The lower-case digit of a number below sixteen. -/
def hexDigit (n : Nat) : Char :=
  Nat.digitChar n

/-- A character inside a quoted text.  Quotes, backslashes and control characters are escaped. -/
def escaped (c : Char) : List Char :=
  if c = '"' then ['\\', '"']
  else if c = '\\' then ['\\', '\\']
  else if c = '\n' then ['\\', 'n']
  else if c = '\r' then ['\\', 'r']
  else if c = '\t' then ['\\', 't']
  else if c = '\x08' then ['\\', 'b']
  else if c = '\x0c' then ['\\', 'f']
  else if c.toNat < 0x20 then
    ['\\', 'u', '0', '0', hexDigit (c.toNat / 16), hexDigit (c.toNat % 16)]
  else [c]

/-- A text in quotes. -/
def quoted (s : String) : String :=
  "\"" ++ String.ofList (s.toList.flatMap escaped) ++ "\""

/-- The start of a line at some depth. -/
def newLine (depth : Nat) : String :=
  "\n" ++ String.join (List.replicate depth "  ")

mutual

/-- The text of a value that starts at some depth. -/
def layout (depth : Nat) : JsonValue → String
  | text s => quoted s
  | number n => Decimal.intText n
  | bool b => if b then "true" else "false"
  | list [] => "[]"
  | list (item :: rest) =>
    "[" ++ newLine (depth + 1) ++ item.layout (depth + 1) ++ layoutItems (depth + 1) rest ++
      newLine depth ++ "]"
  | object [] => "\x7b\x7d"
  | object ((name, v) :: rest) =>
    "\x7b" ++ newLine (depth + 1) ++ quoted name ++ ": " ++ v.layout (depth + 1) ++
      layoutFields (depth + 1) rest ++ newLine depth ++ "\x7d"

/-- The text of further items, each after a comma. -/
def layoutItems (depth : Nat) : List JsonValue → String
  | [] => ""
  | item :: rest => "," ++ newLine depth ++ item.layout depth ++ layoutItems depth rest

/-- The text of further fields, each after a comma. -/
def layoutFields (depth : Nat) : List (String × JsonValue) → String
  | [] => ""
  | (name, v) :: rest =>
    "," ++ newLine depth ++ quoted name ++ ": " ++ v.layout depth ++ layoutFields depth rest

end

end JsonValue

end RuleMetrics
