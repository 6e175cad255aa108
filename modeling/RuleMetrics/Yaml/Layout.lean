import RuleMetrics.Yaml.Token

/-!
# The layout of a YAML text

Outside brackets, collections are marked by indentation: a token opens a collection when a line is
indented more than the collection around it, and a token closes it when a line is indented less.
A key without an indicator of its own is known only when its colon is reached, so the token for
the key, and the one that opens its map, are inserted before tokens that were found earlier.
-/

namespace RuleMetrics.Yaml

/-- The start of what may turn out to be a key. -/
structure KeyCandidate where
  /-- Nothing but a key can stand there. -/
  required : Bool
  /-- The number of tokens before it. -/
  position : Nat
  place : Cell
deriving Repr

/-- What is known between two tokens. -/
structure Layout where
  tokens : Array Token
  /-- The columns of the open block collections, the innermost first. -/
  indents : List Nat
  /-- The key candidate of each open pair of brackets, the innermost first. -/
  flow : List (Option KeyCandidate)
  /-- The key candidate outside all brackets. -/
  outer : Option KeyCandidate
  /-- Whether a key may start here. -/
  keyAllowed : Bool

namespace Layout

/-- Before the first token. -/
def initial : Layout := ⟨#[], [], [], none, true⟩

/-- The column of the innermost block collection; `-1` outside all of them. -/
def indent (s : Layout) : Int :=
  match s.indents with
  | [] => -1
  | column :: _ => column

/-- Whether the place is inside brackets. -/
def inFlow (s : Layout) : Bool :=
  !s.flow.isEmpty

/-- Add a token at the end. -/
def push (s : Layout) (t : Token) : Layout :=
  { s with tokens := s.tokens.push t }

/-- The key candidate of the innermost brackets. -/
def candidate (s : Layout) : Option KeyCandidate :=
  match s.flow with
  | [] => s.outer
  | innermost :: _ => innermost

/-- Replace the key candidate of the innermost brackets. -/
def setCandidate (s : Layout) (k : Option KeyCandidate) : Layout :=
  match s.flow with
  | [] => { s with outer := k }
  | _ :: rest => { s with flow := k :: rest }

/-- Forget the key candidate.  It is an error if only a key could stand there. -/
def dropCandidate (s : Layout) : Except YamlError Layout :=
  match s.candidate with
  | some k => if k.required then .error .missingColon else .ok (s.setCandidate none)
  | none => .ok s

/-- Remember that a key may start here. -/
def saveCandidate (s : Layout) (c : Cell) : Except YamlError Layout := do
  if s.keyAllowed then
    let s ← s.dropCandidate
    let required := !s.inFlow && s.indent == (c.column : Int)
    return s.setCandidate (some ⟨required, s.tokens.size, c⟩)
  else return s

/-- The key candidate that a colon at `c` belongs to: one on the same line and at most 1024 bytes
away. -/
def liveCandidate (s : Layout) (c : Cell) : Except YamlError (Option KeyCandidate) :=
  match s.candidate with
  | none => .ok none
  | some k =>
    if k.place.line = c.line ∧ c.offset ≤ k.place.offset + 1024 then .ok (some k)
    else if k.required then .error .missingColon
    else .ok none

/-- Open a block collection if the column is beyond the innermost one.  Its token goes to the end,
or to a position before it. -/
def openBlock (s : Layout) (column : Nat) (position : Option Nat) (t : Token) : Layout :=
  if s.inFlow || decide ((column : Int) ≤ s.indent) then s
  else
    let s := { s with indents := column :: s.indents }
    match position with
    | none => s.push t
    | some p => { s with tokens := s.tokens.insertIdxIfInBounds p t }

/-- Close the block collections whose column is beyond a column. -/
def closeBlocks (s : Layout) (column : Int) : Layout :=
  if s.inFlow then s
  else
    let closed := s.indents.takeWhile fun (i : Nat) => decide (column < i)
    { s with
      indents := s.indents.drop closed.length
      tokens := s.tokens ++ (List.replicate closed.length Token.blockEnd).toArray }

/-! ## Between tokens -/

/-- Skip a byte order mark that starts a line.  It takes up a column. -/
def skipMark (rest : List Cell) : List Cell :=
  match rest with
  | c :: after => if c.column = 0 ∧ c.char = '\ufeff' then after else rest
  | [] => []

/-- Skip white space, comments and line breaks.  After a break outside brackets a key may start.
Each step reads at least one cell, so the number of cells bounds the steps. -/
def skipGap (s : Layout) : Nat → List Cell → Layout × List Cell
  | 0, rest => (s, rest)
  | fuel + 1, rest =>
    let rest := skipMark rest
    let rest := dropChars (fun c => c == ' ' || (c == '\t' && (s.inFlow || !s.keyAllowed))) rest
    let rest :=
      match rest with
      | c :: _ => if c.char = '#' then dropChars (fun c => !isBreak c) rest else rest
      | [] => []
    match rest with
    | c :: after =>
      if isBreak c.char then
        skipGap (if s.inFlow then s else { s with keyAllowed := true }) fuel after
      else (s, rest)
    | [] => (s, [])

/-! ## Tokens -/

/-- Read an indicator that may start a value: it may be the start of a key, and no key can follow
right after it. -/
def startValue (s : Layout) (c : Cell) : Except YamlError Layout := do
  let s ← s.saveCandidate c
  return { s with keyAllowed := false }

/-- Read a question mark that marks a key. -/
def scanKeyMark (s : Layout) (c : Cell) : Except YamlError Layout := do
  if !s.inFlow && !s.keyAllowed then throw .misplacedKey
  let s := s.openBlock c.column none .blockMapStart
  let s ← s.dropCandidate
  return { s.push .key with keyAllowed := !s.inFlow }

/-- Read a dash that marks an entry of a list. -/
def scanEntryMark (s : Layout) (c : Cell) : Except YamlError Layout := do
  if !s.inFlow && !s.keyAllowed then throw .misplacedEntry
  let s := s.openBlock c.column none .blockListStart
  let s ← s.dropCandidate
  return { s.push .entry with keyAllowed := true }

/-- Read a colon that marks a value. -/
def scanValueMark (s : Layout) (c : Cell) : Except YamlError Layout := do
  match ← s.liveCandidate c with
  | some k =>
    let s := { s with tokens := s.tokens.insertIdxIfInBounds k.position .key }
    let s := s.openBlock k.place.column (some k.position) .blockMapStart
    let s := s.setCandidate none
    return { s.push .value with keyAllowed := false }
  | none =>
    if !s.inFlow && !s.keyAllowed then throw .misplacedValue
    let s := s.openBlock c.column none .blockMapStart
    return { s.push .value with keyAllowed := !s.inFlow }

/-- Whether a plain scalar can start with a character. -/
def startsPlain (flow : Bool) (c : Char) (after : List Cell) : Bool :=
  (!isSpace c && !("-?:,[]\x7b\x7d#&*!|>\x27\x22%@\x60".toList).contains c) ||
    (c == '-' && !(match after with
      | next :: _ => isSpace next.char
      | [] => false)) ||
    (!flow && (c == '?' || c == ':') && !atGap after)

/-- Read one token that starts at a cell. -/
def scanToken (s : Layout) (c : Cell) (after : List Cell) :
    Except YamlError (Layout × List Cell) := do
  let rest := c :: after
  let s := s.closeBlocks c.column
  let unindented (s : Layout) : Except YamlError Layout := do
    let s ← (s.closeBlocks (-1)).dropCandidate
    return { s with keyAllowed := false }
  if c.column = 0 ∧ c.char = '%' then
    let s ← unindented s
    let (token, rest) ← scanDirective after
    return (s.push token, rest)
  if atDocumentMark rest then
    let s ← unindented s
    return (s.push (if c.char = '-' then .documentStart else .documentEnd), after.drop 2)
  match c.char with
  | '[' =>
    let s ← s.saveCandidate c
    return ({ s.push .flowListStart with flow := none :: s.flow, keyAllowed := true }, after)
  | '\x7b' =>
    let s ← s.saveCandidate c
    return ({ s.push .flowMapStart with flow := none :: s.flow, keyAllowed := true }, after)
  | ']' =>
    let s ← s.dropCandidate
    return ({ s.push .flowListEnd with flow := s.flow.drop 1, keyAllowed := false }, after)
  | '\x7d' =>
    let s ← s.dropCandidate
    return ({ s.push .flowMapEnd with flow := s.flow.drop 1, keyAllowed := false }, after)
  | ',' =>
    let s ← s.dropCandidate
    return ({ s.push .comma with keyAllowed := true }, after)
  | '*' =>
    let s ← s.startValue c
    let (name, rest) ← scanAnchorName after
    return (s.push (.reference name), rest)
  | '&' =>
    let s ← s.startValue c
    let (name, rest) ← scanAnchorName after
    return (s.push (.anchor name), rest)
  | '!' =>
    let s ← s.startValue c
    let (token, rest) ← scanTag s.inFlow rest
    return (s.push token, rest)
  | '\x27' => quoted s rest
  | '\x22' => quoted s rest
  | other =>
    if other = '-' ∧ atGap after then return (← s.scanEntryMark c, after)
    if other = '?' ∧ (s.inFlow ∨ atGap after) then return (← s.scanKeyMark c, after)
    if other = ':' ∧ (s.inFlow ∨ atGap after) then return (← s.scanValueMark c, after)
    if (other = '|' ∨ other = '>') ∧ !s.inFlow then
      let s ← s.dropCandidate
      let block ← scanBlock (other == '|') s.indent after
      let s := s.push (.scalar false (String.ofList block.text))
      return ({ s with keyAllowed := true }, block.rest)
    if startsPlain s.inFlow other after then
      let s ← s.startValue c
      let plain ← scanPlain s.inFlow (s.indent + 1).toNat [] .none rest
      let s := s.push (.scalar true (String.ofList plain.text))
      return ({ s with keyAllowed := plain.broken }, plain.rest)
    throw .unexpectedCharacter
where
  /-- Read a quoted scalar. -/
  quoted (s : Layout) (rest : List Cell) : Except YamlError (Layout × List Cell) := do
    match rest with
    | c :: after =>
      let s ← s.startValue c
      let scalar ← scanQuoted c.char [] .none (after.length + 1) after
      return (s.push (.scalar false (String.ofList scalar.text)), scalar.rest)
    | [] => throw .unterminatedScalar

/-- Read all tokens.  Each step reads at least one cell, so the number of cells bounds the
steps. -/
def scanAll (s : Layout) : Nat → List Cell → Except YamlError (List Token)
  | 0, _ => .error .tooDeep
  | fuel + 1, rest =>
    let (s, rest) := s.skipGap (fuel + 1) rest
    match rest with
    | [] => do
      let s ← (s.closeBlocks (-1)).dropCandidate
      return s.tokens.toList
    | c :: after => do
      let (s, rest) ← s.scanToken c after
      s.scanAll fuel rest

end Layout

/-- The tokens of a text. -/
def tokens (text : String) : Except YamlError (List Token) := do
  let rest ← cells text
  Layout.initial.scanAll (rest.length + 1) rest

end RuleMetrics.Yaml
