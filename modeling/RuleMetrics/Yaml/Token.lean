import RuleMetrics.Yaml.Scalar

/-!
# Tokens of a YAML text

A token is a mark of the structure, a scalar, or what stands in front of a node or a document:
anchors, tags and directives, which are read here.
-/

namespace RuleMetrics.Yaml

/-- A token. -/
inductive Token where
  | version (major minor : Nat)
  | tagHandle (handle : String) (start : List UInt8)
  | documentStart
  | documentEnd
  | blockListStart
  | blockMapStart
  | blockEnd
  | flowListStart
  | flowListEnd
  | flowMapStart
  | flowMapEnd
  | entry
  | comma
  | key
  | value
  | reference (name : String)
  | anchor (name : String)
  | tag (handle : String) (suffix : List UInt8)
  | scalar (plain : Bool) (text : String)
deriving Repr, DecidableEq

/-! ## Directives, anchors and tags -/

/-- Read digits as a number of a version. -/
def scanVersionNumber (rest : List Cell) : Except YamlError (Nat × List Cell) :=
  let digits := takeChars Char.isDigit rest
  if digits.isEmpty || decide (9 < digits.length) then .error .invalidDirective
  else
    .ok (digits.foldl (fun n c => 10 * n + (c.toNat - '0'.toNat)) 0, rest.drop digits.length)

/-- Whether a character can be part of a tag.  Commas and brackets can only where the tag stands
between angle brackets or in a directive. -/
def isTagChar (verbatim : Bool) (c : Char) : Bool :=
  isWordChar c || (";/?:@&=+$.%!~*\x27()".toList).contains c ||
    (verbatim && (c == ',' || c == '[' || c == ']'))

/-- How many bytes follow the first byte of a character, as that byte says. -/
def followingBytes? (first : Nat) : Option Nat :=
  if first < 0x80 then some 0
  else if first < 0xC0 then none
  else if first < 0xE0 then some 1
  else if first < 0xF0 then some 2
  else if first < 0xF8 then some 3
  else none

/-- The bytes of a tag, of which some are written as two hexadecimal digits after a percent sign.
Those that follow the first byte of a character, of which `awaited` are still to come, have to be
written so too. -/
def tagBytes (awaited : Nat) : List Char → Except YamlError (List UInt8)
  | [] => if awaited = 0 then .ok [] else .error .invalidTag
  | '%' :: a :: b :: rest =>
    match hexDigit? a, hexDigit? b with
    | some high, some low =>
      let n := 16 * high + low
      let next : Option Nat :=
        match awaited with
        | 0 => followingBytes? n
        | left + 1 => if 0x80 ≤ n ∧ n < 0xC0 then some left else none
      match next with
      | some awaited => (tagBytes awaited rest).map fun bytes => n.toUInt8 :: bytes
      | none => .error .invalidTag
    | _, _ => .error .invalidTag
  | '%' :: _ => .error .invalidTag
  | c :: rest =>
    if awaited = 0 then (tagBytes 0 rest).map fun bytes => String.utf8EncodeChar c ++ bytes
    else .error .invalidTag

/-- Decode the text of a tag, which ends before a byte of zero. -/
def decodeTag (written : List Char) : Except YamlError (List UInt8) :=
  (tagBytes 0 written).map fun bytes => bytes.takeWhile fun b => b != 0

/-- Read the handle of a tag: an exclamation mark, perhaps with a word and another one after. -/
def scanTagHandle (rest : List Cell) : Except YamlError (List Char × List Cell) :=
  match rest with
  | c :: after =>
    if c.char = '!' then
      let word := takeChars isWordChar after
      match after.drop word.length with
      | next :: later =>
        if next.char = '!' then .ok ('!' :: word ++ ['!'], later)
        else .ok ('!' :: word, next :: later)
      | [] => .ok ('!' :: word, [])
    else .error .invalidTag
  | [] => .error .invalidTag

/-- Read a directive after its percent sign: its token and what follows its line. -/
def scanDirective (rest : List Cell) : Except YamlError (Token × List Cell) := do
  let name := takeChars isWordChar rest
  let rest := rest.drop name.length
  if !atGap rest then throw .invalidDirective
  let (token, rest) ← match String.ofList name with
    | "YAML" => do
      let (major, rest) ← scanVersionNumber (dropChars isSpace rest)
      match rest with
      | c :: after =>
        if c.char = '.' then
          let (minor, rest) ← scanVersionNumber after
          pure (Token.version major minor, rest)
        else throw .invalidDirective
      | [] => throw .invalidDirective
    | "TAG" => do
      let (handle, rest) ← scanTagHandle (dropChars isSpace rest)
      if handle != ['!'] && (handle.length < 2 || handle.getLast? != some '!') then
        throw .invalidTag
      match rest with
      | c :: _ => if !isSpace c.char then throw .invalidTag
      | [] => throw .invalidTag
      let rest := dropChars isSpace rest
      let written := takeChars (isTagChar true) rest
      if written.isEmpty then throw .invalidTag
      let start ← decodeTag written
      let rest := rest.drop written.length
      if !atGap rest then throw .invalidTag
      pure (Token.tagHandle (String.ofList handle) start, rest)
    | _ => throw .invalidDirective
  let rest := dropChars isSpace rest
  let rest :=
    match rest with
    | c :: _ => if c.char = '#' then dropChars (fun c => !isBreak c) rest else rest
    | [] => []
  match rest with
  | [] => return (token, [])
  | c :: after => if isBreak c.char then return (token, after) else throw .invalidDirective

/-- Read the name of an anchor or an alias. -/
def scanAnchorName (rest : List Cell) : Except YamlError (String × List Cell) :=
  let name := takeChars isWordChar rest
  let after := rest.drop name.length
  let ends := atGap after ||
    match after with
    | c :: _ => ("?:,]\x7d%@\x60".toList).contains c.char
    | [] => true
  if name.isEmpty || !ends then .error .invalidAnchor else .ok (String.ofList name, after)

/-- Read a tag: its handle and its suffix.  Without a handle the suffix is the whole tag. -/
def scanTag (flow : Bool) (rest : List Cell) : Except YamlError (Token × List Cell) := do
  let (handle, suffix, rest) ← match rest with
    | _ :: c :: after =>
      if c.char = '<' then do
        let written := takeChars (isTagChar true) after
        if written.isEmpty then throw .invalidTag
        match after.drop written.length with
        | close :: later =>
          if close.char = '>' then pure ("", ← decodeTag written, later) else throw .invalidTag
        | [] => throw .invalidTag
      else scanShort rest
    | _ => scanShort rest
  let comma := flow &&
    match rest with
    | c :: _ => c.char == ','
    | [] => false
  if !comma && !atGap rest then throw .invalidTag
  return (Token.tag handle suffix, rest)
where
  /-- A tag that is not between angle brackets. -/
  scanShort (rest : List Cell) : Except YamlError (String × List UInt8 × List Cell) := do
    let (handle, after) ← scanTagHandle rest
    let written := takeChars (isTagChar false) after
    let later := after.drop written.length
    if 2 ≤ handle.length && handle.getLast? == some '!' then
      if written.isEmpty then throw .invalidTag
      return (String.ofList handle, ← decodeTag written, later)
    else
      let suffix ← decodeTag (handle.drop 1 ++ written)
      if suffix.isEmpty then return ("", [0x21], later) else return ("!", suffix, later)

end RuleMetrics.Yaml
