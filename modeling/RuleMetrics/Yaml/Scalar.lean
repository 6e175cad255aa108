import RuleMetrics.Yaml.Cell

/-!
# Scalars of a YAML text

A scalar is plain, quoted, or a block under a header.  Within plain and quoted scalars the white
space around a line break is folded: one break becomes a space, and of several breaks all but the
first stay.  A block keeps its breaks, or folds those between lines that do not start with white
space.
-/

namespace RuleMetrics.Yaml

/-- The white space since the last character of a scalar. -/
inductive Gap where
  | none
  /-- Spaces and tabs within a line, the last one first. -/
  | spaces (reversed : List Char)
  /-- The first line break, and the later ones, the last one first.  There is no first break where
  a backslash took it away. -/
  | breaks (first : Option Char) (reversed : List Char)
deriving Repr, DecidableEq

namespace Gap

/-- What a gap becomes when text follows, the last character first. -/
def folded : Gap → List Char
  | none => []
  | spaces reversed => reversed
  | breaks first reversed =>
    match first with
    | some '\n' => if reversed.isEmpty then [' '] else reversed
    | some other => reversed ++ [other]
    | Option.none => reversed

/-- A gap with one more space or tab.  At the start of a line they are not kept. -/
def addSpace (c : Char) : Gap → Gap
  | none => spaces [c]
  | spaces reversed => spaces (c :: reversed)
  | breaks first reversed => breaks first reversed

/-- A gap with one more line break. -/
def addBreak (c : Char) : Gap → Gap
  | breaks first reversed => breaks first (c :: reversed)
  | _ => breaks (some c) []

/-- Whether a gap holds a line break. -/
def isBroken : Gap → Bool
  | breaks .. => true
  | _ => false

end Gap

/-- A scalar that was read: its text, what follows, and whether a line break stood in between. -/
structure ScalarEnd where
  text : List Char
  rest : List Cell
  broken : Bool
deriving Repr

/-! ## Plain scalars -/

/-- Whether a character cannot be part of a plain scalar inside brackets. -/
def isFlowMark (c : Char) : Bool :=
  c == ',' || c == '[' || c == ']' || c == '\x7b' || c == '\x7d'

/-- Whether a plain scalar ends before a character. -/
def endsPlain (flow : Bool) (c : Char) (after : List Cell) : Bool :=
  (c == ':' && atGap after) || (flow && isFlowMark c)

/-- Whether a colon stands inside brackets where none can stand. -/
def isStrayColon (flow : Bool) (c : Char) (after : List Cell) : Bool :=
  flow && c == ':' &&
    match after with
    | next :: _ => isFlowMark next.char || next.char == '?'
    | [] => false

/-- Read the rest of a plain scalar.  Outside brackets its lines are indented by `indent` at
least. -/
def scanPlain (flow : Bool) (indent : Nat) (reversed : List Char) (gap : Gap) :
    List Cell → Except YamlError ScalarEnd
  | [] => .ok ⟨reversed.reverse, [], gap.isBroken⟩
  | c :: after =>
    if isSpace c.char then
      if gap.isBroken && decide (c.column < indent) && c.char == '\t' then
        .error .tabInIndentation
      else scanPlain flow indent reversed (gap.addSpace c.char) after
    else if isBreak c.char then scanPlain flow indent reversed (gap.addBreak c.char) after
    else if gap != .none &&
        (atDocumentMark (c :: after) || c.char == '#' ||
          (!flow && decide (c.column < indent))) then
      .ok ⟨reversed.reverse, c :: after, gap.isBroken⟩
    else if isStrayColon flow c.char after then .error .misplacedValue
    else if endsPlain flow c.char after then
      .ok ⟨reversed.reverse, c :: after, gap.isBroken⟩
    else scanPlain flow indent (c.char :: (gap.folded ++ reversed)) .none after

/-! ## Quoted scalars -/

/-- The characters that stand for themselves or for a control character after a backslash. -/
def simpleEscapes : List (Char × Char) :=
  [('0', '\x00'), ('a', '\x07'), ('b', '\x08'), ('t', '\t'), ('\t', '\t'), ('n', '\n'),
    ('v', '\x0B'), ('f', '\x0C'), ('r', '\r'), ('e', '\x1B'), (' ', ' '), ('\x22', '\x22'),
    ('/', '/'), ('\\', '\\'), ('N', '\u0085'), ('_', '\u00A0'), ('L', '\u2028'), ('P', '\u2029')]

/-- The number of hexadecimal digits after an escape letter. -/
def hexLength? (letter : Char) : Option Nat :=
  [('x', 2), ('u', 4), ('U', 8)].lookup letter

/-- The character of a hexadecimal escape. -/
def hexChar? (digits : List Char) : Option Char :=
  match digits.mapM hexDigit? with
  | none => none
  | some values =>
    let n := values.foldl (fun n d => 16 * n + d) 0
    if h : n.isValidChar then some (Char.ofNatAux n h) else none

/-- Read the rest of a quoted scalar up to its closing quote.  Each step reads at least one cell,
so the number of cells bounds the steps. -/
def scanQuoted (mark : Char) (reversed : List Char) (gap : Gap) :
    Nat → List Cell → Except YamlError ScalarEnd
  | 0, _ => .error .unterminatedScalar
  | _, [] => .error .unterminatedScalar
  | fuel + 1, c :: after =>
    if isSpace c.char then scanQuoted mark reversed (gap.addSpace c.char) fuel after
    else if isBreak c.char then scanQuoted mark reversed (gap.addBreak c.char) fuel after
    else
      let reversed := gap.folded ++ reversed
      if atDocumentMark (c :: after) then .error .documentMarkInScalar
      else if c.char = mark then
        match mark, after with
        | '\x27', next :: later =>
          if next.char = '\x27' then scanQuoted mark ('\x27' :: reversed) .none fuel later
          else .ok ⟨reversed.reverse, after, false⟩
        | _, _ => .ok ⟨reversed.reverse, after, false⟩
      else if c.char = '\\' ∧ mark = '\x22' then
        match after with
        | [] => .error .unterminatedScalar
        | letter :: later =>
          if isBreak letter.char then scanQuoted mark reversed (.breaks .none []) fuel later
          else
            match simpleEscapes.lookup letter.char, hexLength? letter.char with
            | some e, _ => scanQuoted mark (e :: reversed) .none fuel later
            | none, some n =>
              match hexChar? ((later.take n).map Cell.char) with
              | some e =>
                if later.length < n then .error .invalidEscape
                else scanQuoted mark (e :: reversed) .none fuel (later.drop n)
              | none => .error .invalidEscape
            | none, none => .error .invalidEscape
      else scanQuoted mark (c.char :: reversed) .none fuel after

/-! ## Block scalars -/

/-- What becomes of the line breaks at the end of a block. -/
inductive Chomping where
  | strip
  | clip
  | keep
deriving Repr, DecidableEq

/-- The header of a block: what becomes of its end, and its indentation if it is given. -/
structure BlockHeader where
  chomping : Chomping
  indentation : Option Nat
deriving Repr, DecidableEq

/-- Read a header: a sign and a digit in either order, each of them optional. -/
def scanBlockHeader (rest : List Cell) : Except YamlError (BlockHeader × List Cell) :=
  let sign? (c : Char) : Option Chomping :=
    if c == '+' then some .keep else if c == '-' then some .strip else none
  let digit? (c : Char) : Option Nat :=
    if c.isDigit then some (c.toNat - '0'.toNat) else none
  let (header, rest) : BlockHeader × List Cell :=
    match rest with
    | [] => (⟨.clip, none⟩, [])
    | a :: after =>
      match sign? a.char, digit? a.char, after with
      | some chomping, _, b :: later =>
        match digit? b.char with
        | some n => (⟨chomping, some n⟩, later)
        | none => (⟨chomping, none⟩, after)
      | some chomping, _, [] => (⟨chomping, none⟩, [])
      | none, some n, b :: later =>
        match sign? b.char with
        | some chomping => (⟨chomping, some n⟩, later)
        | none => (⟨.clip, some n⟩, after)
      | none, some n, [] => (⟨.clip, some n⟩, [])
      | none, none, _ => (⟨.clip, none⟩, a :: after)
  if header.indentation = some 0 then .error .invalidBlockHeader
  else
    let rest := dropChars isSpace rest
    let rest :=
      match rest with
      | c :: _ => if c.char = '#' then dropChars (fun c => !isBreak c) rest else rest
      | [] => []
    match rest with
    | [] => .ok (header, [])
    | c :: after => if isBreak c.char then .ok (header, after) else .error .invalidBlockHeader

/-- The empty lines and the indentation before a line of a block. -/
structure BlockBreaks where
  /-- The line breaks, the last one first. -/
  reversed : List Char
  /-- The widest indentation that was seen. -/
  widest : Nat
  rest : List Cell
deriving Repr

/-- Read empty lines and the indentation after them.  An indentation of zero is not known yet, so
every leading space belongs to it. -/
def scanBlockBreaks (indent : Nat) (reversed : List Char) (widest : Nat) :
    List Cell → Except YamlError BlockBreaks
  | [] => .ok ⟨reversed, widest, []⟩
  | c :: after =>
    let within := indent == 0 || decide (c.column < indent)
    if within && c.char == ' ' then
      scanBlockBreaks indent reversed (max widest (c.column + 1)) after
    else if within && c.char == '\t' then .error .tabInIndentation
    else if isBreak c.char then scanBlockBreaks indent (c.char :: reversed) widest after
    else .ok ⟨reversed, widest, c :: after⟩

/-- Read the lines of a block, given the line break before the next line and the empty lines since.
Each step reads at least one cell, so the number of cells bounds the steps. -/
def scanBlockLines (literal : Bool) (chomping : Chomping) (indent : Nat) (reversed : List Char)
    (lead : Option Char) (spaced : Bool) (breaks : BlockBreaks) :
    Nat → Except YamlError ScalarEnd
  | 0 => .error .tooDeep
  | fuel + 1 =>
    match breaks.rest with
    | c :: after =>
      if c.column = indent then
        let startsSpaced := isSpace c.char
        let joined :=
          if !literal && lead == some '\n' && !spaced && !startsSpaced then
            if breaks.reversed.isEmpty then ' ' :: reversed else breaks.reversed ++ reversed
          else breaks.reversed ++ (lead.toList ++ reversed)
        let line := takeChars (fun c => !isBreak c) (c :: after)
        let rest := dropChars (fun c => !isBreak c) (c :: after)
        match scanBlockBreaks indent [] 0 rest.tail with
        | .ok next =>
          scanBlockLines literal chomping indent (line.reverse ++ joined)
            (rest.head?.map Cell.char) startsSpaced next fuel
        | .error e => .error e
      else finish
    | [] => finish
where
  /-- The block with its end chomped. -/
  finish : Except YamlError ScalarEnd :=
    let reversed := if chomping = .strip then reversed else lead.toList ++ reversed
    let reversed := if chomping = .keep then breaks.reversed ++ reversed else reversed
    .ok ⟨reversed.reverse, breaks.rest, false⟩

/-- Read a block after its indicator.  The collection around it is indented by `parent`, which is
`-1` outside all collections. -/
def scanBlock (literal : Bool) (parent : Int) (rest : List Cell) :
    Except YamlError ScalarEnd := do
  let (header, rest) ← scanBlockHeader rest
  let given := (header.indentation.map fun n => (max parent 0).toNat + n).getD 0
  let breaks ← scanBlockBreaks given [] 0 rest
  let indent :=
    if given = 0 then max (max breaks.widest (parent + 1).toNat) 1 else given
  scanBlockLines literal header.chomping indent [] none false breaks (rest.length + 1)

end RuleMetrics.Yaml
