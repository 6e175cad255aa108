import RuleMetrics.Yaml.Layout

/-!
# Nodes of a YAML document

A document is a tree of scalars, lists and maps, read off the tokens.  A node that is left out is
an empty plain scalar.  An alias is kept as a reference: the document has a table of the nodes that
can be referred to, so a node is there once however often it is referred to, even within itself.

A name that is anchored for the first time gets the number of names before it.  A name that is
anchored again gets the number of all names so far, and a node whose number is taken takes the
place of the earlier one.
-/

namespace RuleMetrics.Yaml

/-- A tag: bytes, which need not be a text. -/
abbrev Tag := List UInt8

/-- A node of a document, with its tag if it has one. -/
inductive Node where
  | scalar (tag : Option Tag) (plain : Bool) (text : String)
  | list (tag : Option Tag) (items : List Node)
  | map (tag : Option Tag) (entries : List (Node × Node))
  /-- An alias, for the node with this number. -/
  | reference (number : Nat)
deriving Repr

namespace Node

/-- A node that is left out. -/
def empty : Node := scalar none true ""

mutual

/-- The size of a node: one for each scalar and each alias in it, two for each list and map. -/
def size : Node → Nat
  | scalar .. => 1
  | reference _ => 1
  | list _ items => 2 + sizeAll items
  | map _ entries => 2 + sizeEntries entries

/-- The size of nodes. -/
def sizeAll : List Node → Nat
  | [] => 0
  | n :: rest => n.size + sizeAll rest

/-- The size of keys and values. -/
def sizeEntries : List (Node × Node) → Nat
  | [] => 0
  | (k, v) :: rest => k.size + v.size + sizeEntries rest

end

end Node

/-- What the nodes so far have named. -/
structure Names where
  /-- The handles that tags may use, and what they stand for. -/
  handles : List (String × Tag)
  /-- The names of anchors with their numbers, each name once. -/
  numbers : List (String × Nat)
  /-- The numbered nodes, the latest first.  One that is still being read is empty here. -/
  anchored : List (Nat × Node)

namespace Names

/-- The handles that need no directive. -/
def initial : Names where
  handles := [("!", "!".toUTF8.toList), ("!!", "tag:yaml.org,2002:".toUTF8.toList)]
  numbers := []
  anchored := []

/-- Anchor a node that is about to be read. -/
def openAnchor (names : Names) : Option String → Names
  | none => names
  | some a =>
    let number := names.numbers.length
    { names with
      numbers := (a, number) :: names.numbers.filter fun known => known.1 != a
      anchored := (number, Node.empty) :: names.anchored }

/-- Fill in the anchored node, which was opened when `depth` nodes were anchored. -/
def closeAnchor (names : Names) (depth : Nat) (n : Node) : Option String → Names
  | none => names
  | some _ =>
    let place := names.anchored.length - depth - 1
    { names with anchored := names.anchored.modify place fun entry => (entry.1, n) }

/-- The reference that an alias is. -/
def referred (names : Names) (a : String) : Except YamlError Node :=
  match names.numbers.lookup a with
  | some number => .ok (.reference number)
  | none => .error .unknownAnchor

/-- The tag that a handle and a suffix stand for. -/
def tag (names : Names) (handle : String) (suffix : Tag) : Except YamlError Tag :=
  if handle = "" then .ok suffix
  else
    match names.handles.lookup handle with
    | some start => .ok (start ++ suffix)
    | none => .error .undefinedTagHandle

end Names

/-- A node that was read, the names it added to, and the tokens after it. -/
abbrev Parsed (α : Type) := α × Names × List Token

/-- The tag and the anchor before a node, in either order. -/
structure Properties where
  tag : Option Tag
  anchor : Option String

/-- Read the tag and the anchor before a node. -/
def parseProperties (names : Names) : List Token → Except YamlError (Properties × List Token)
  | .anchor a :: .tag handle suffix :: rest => do
    return (⟨some (← names.tag handle suffix), some a⟩, rest)
  | .tag handle suffix :: .anchor a :: rest => do
    return (⟨some (← names.tag handle suffix), some a⟩, rest)
  | .anchor a :: rest => .ok (⟨none, some a⟩, rest)
  | .tag handle suffix :: rest => do
    return (⟨some (← names.tag handle suffix), none⟩, rest)
  | rest => .ok (⟨none, none⟩, rest)

/-- Where a node stands, which decides what may start there. -/
inductive Position where
  /-- Inside brackets. -/
  | flow
  /-- An entry of a list, or the whole document. -/
  | block
  /-- A key or a value of a map, where a list needs no indentation of its own. -/
  | mapped
deriving Repr, DecidableEq

/-- Whether a token ends an entry that is left out. -/
def endsEntry (stops : List Token) (rest : List Token) : Bool :=
  match rest with
  | t :: _ => stops.contains t
  | [] => false

mutual

/-- Read a node.  Every step reads a token or goes down to a part of the grammar, so a multiple of
the number of tokens bounds the steps. -/
def parseNode (names : Names) (position : Position) :
    Nat → List Token → Except YamlError (Parsed Node)
  | 0, _ => .error .tooDeep
  | fuel + 1, .reference a :: rest => do
    let _ := fuel
    return (← names.referred a, names, rest)
  | fuel + 1, rest => do
    let (properties, rest) ← parseProperties names rest
    let depth := names.anchored.length
    let names := names.openAnchor properties.anchor
    let (node, names, rest) ← parseContent names position properties fuel rest
    return (node, names.closeAnchor depth node properties.anchor, rest)

/-- Read a node after its tag and its anchor. -/
def parseContent (names : Names) (position : Position) (properties : Properties) :
    Nat → List Token → Except YamlError (Parsed Node)
  | 0, _ => .error .tooDeep
  | fuel + 1, rest =>
    match rest with
    | .scalar plain text :: rest => .ok (.scalar properties.tag plain text, names, rest)
    | .flowListStart :: rest => do
      let (items, names, rest) ← parseFlowList names true fuel rest
      return (.list properties.tag items, names, rest)
    | .flowMapStart :: rest => do
      let (entries, names, rest) ← parseFlowMap names true fuel rest
      return (.map properties.tag entries, names, rest)
    | t :: after =>
      if t = .entry ∧ position = .mapped then do
        let (items, names, rest) ← parseBareList names fuel (t :: after)
        return (.list properties.tag items, names, rest)
      else if t = .blockListStart ∧ position ≠ .flow then do
        let (items, names, rest) ← parseBlockList names fuel after
        return (.list properties.tag items, names, rest)
      else if t = .blockMapStart ∧ position ≠ .flow then do
        let (entries, names, rest) ← parseBlockMap names fuel after
        return (.map properties.tag entries, names, rest)
      else omitted (t :: after)
    | [] => omitted []
where
  /-- A node that has a tag or an anchor and nothing else. -/
  omitted (rest : List Token) : Except YamlError (Parsed Node) :=
    if properties.tag.isSome || properties.anchor.isSome then
      .ok (.scalar properties.tag true "", names, rest)
    else .error .unexpectedToken

/-- Read a node, unless one of the tokens that end its place comes first. -/
def parseOptional (names : Names) (position : Position) (stops : List Token) :
    Nat → List Token → Except YamlError (Parsed Node)
  | 0, _ => .error .tooDeep
  | fuel + 1, rest =>
    if endsEntry stops rest then .ok (Node.empty, names, rest)
    else parseNode names position fuel rest

/-- Read the entries of an indented list. -/
def parseBlockList (names : Names) : Nat → List Token → Except YamlError (Parsed (List Node))
  | 0, _ => .error .tooDeep
  | fuel + 1, .entry :: rest => do
    let (item, names, rest) ← parseOptional names .block [.entry, .blockEnd] fuel rest
    let (items, names, rest) ← parseBlockList names fuel rest
    return (item :: items, names, rest)
  | _ + 1, .blockEnd :: rest => .ok ([], names, rest)
  | _ + 1, _ => .error .unexpectedToken

/-- Read the entries of a list that is not indented beyond its key. -/
def parseBareList (names : Names) : Nat → List Token → Except YamlError (Parsed (List Node))
  | 0, _ => .error .tooDeep
  | fuel + 1, .entry :: rest => do
    let (item, names, rest) ←
      parseOptional names .block [.entry, .key, .value, .blockEnd] fuel rest
    let (items, names, rest) ← parseBareList names fuel rest
    return (item :: items, names, rest)
  | _ + 1, rest => .ok ([], names, rest)

/-- Read the entries of an indented map. -/
def parseBlockMap (names : Names) :
    Nat → List Token → Except YamlError (Parsed (List (Node × Node)))
  | 0, _ => .error .tooDeep
  | fuel + 1, .key :: rest => do
    let stops : List Token := [.key, .value, .blockEnd]
    let (key, names, rest) ← parseOptional names .mapped stops fuel rest
    let (value, names, rest) ← match rest with
      | .value :: rest => parseOptional names .mapped stops fuel rest
      | rest => .ok (Node.empty, names, rest)
    let (entries, names, rest) ← parseBlockMap names fuel rest
    return ((key, value) :: entries, names, rest)
  | _ + 1, .blockEnd :: rest => .ok ([], names, rest)
  | _ + 1, _ => .error .unexpectedToken

/-- Read the items of a list in brackets.  An item may be a single entry of a map, and if that has
a question mark and no key then the mark after it is passed over as if it were the key. -/
def parseFlowList (names : Names) (first : Bool) :
    Nat → List Token → Except YamlError (Parsed (List Node))
  | 0, _ => .error .tooDeep
  | _ + 1, .flowListEnd :: rest => .ok ([], names, rest)
  | fuel + 1, rest => do
    let rest ← match first, rest with
      | true, rest => .ok rest
      | false, .comma :: rest => .ok rest
      | false, _ => .error YamlError.unexpectedToken
    match rest with
    | .flowListEnd :: rest => return ([], names, rest)
    | .key :: rest =>
      let (key, names, rest) ←
        if endsEntry [.value, .comma, .flowListEnd] rest then
          .ok (Node.empty, names, rest.drop 1)
        else parseNode names .flow fuel rest
      let (value, names, rest) ← match rest with
        | .value :: rest => parseOptional names .flow [.comma, .flowListEnd] fuel rest
        | rest => .ok (Node.empty, names, rest)
      let (items, names, rest) ← parseFlowList names false fuel rest
      return (.map none [(key, value)] :: items, names, rest)
    | rest =>
      let (item, names, rest) ← parseNode names .flow fuel rest
      let (items, names, rest) ← parseFlowList names false fuel rest
      return (item :: items, names, rest)

/-- Read the entries of a map in brackets. -/
def parseFlowMap (names : Names) (first : Bool) :
    Nat → List Token → Except YamlError (Parsed (List (Node × Node)))
  | 0, _ => .error .tooDeep
  | _ + 1, .flowMapEnd :: rest => .ok ([], names, rest)
  | fuel + 1, rest => do
    let rest ← match first, rest with
      | true, rest => .ok rest
      | false, .comma :: rest => .ok rest
      | false, _ => .error YamlError.unexpectedToken
    match rest with
    | .flowMapEnd :: rest => return ([], names, rest)
    | .key :: rest =>
      let (key, names, rest) ←
        parseOptional names .flow [.value, .comma, .flowMapEnd] fuel rest
      let (value, names, rest) ← match rest with
        | .value :: rest => parseOptional names .flow [.comma, .flowMapEnd] fuel rest
        | rest => .ok (Node.empty, names, rest)
      let (entries, names, rest) ← parseFlowMap names false fuel rest
      return ((key, value) :: entries, names, rest)
    | rest =>
      let (key, names, rest) ← parseNode names .flow fuel rest
      let (entries, names, rest) ← parseFlowMap names false fuel rest
      return ((key, Node.empty) :: entries, names, rest)

end

/-! ## Documents -/

/-- Read the directives in front of a document. -/
def parseDirectives (names : Names) (version : Bool) (handles : List String) :
    List Token → Except YamlError (Names × List Token)
  | .version major minor :: rest =>
    if version || major != 1 || (minor != 1 && minor != 2) then .error .invalidDirective
    else parseDirectives names true handles rest
  | .tagHandle handle start :: rest =>
    if handles.contains handle then .error .invalidDirective
    else
      parseDirectives { names with handles := (handle, start) :: names.handles } version
        (handle :: handles) rest
  | rest => .ok (names, rest)

/-- Whether the next token cannot be part of a document's node. -/
def atDocumentEdge : List Token → Bool
  | [] => true
  | .version .. :: _ => true
  | .tagHandle .. :: _ => true
  | .documentStart :: _ => true
  | .documentEnd :: _ => true
  | _ => false

/-- A document: a node, and the nodes in it that can be referred to, the latest first. -/
structure Document where
  root : Node
  anchored : List (Nat × Node)
deriving Repr

/-- Read the node of a document and see that no other document follows.  Only a document with a
start mark may be empty. -/
def parseRoot (names : Names) (marked : Bool) (rest : List Token) :
    Except YamlError Document := do
  let (node, names, rest) ←
    if marked && atDocumentEdge rest then pure (Node.empty, names, rest)
    else parseNode names .block (4 * rest.length + 8) rest
  let after := rest.dropWhile fun t => t == .documentEnd
  if after.isEmpty then return ⟨node, names.anchored⟩
  else if after.head? == some .documentStart then throw .severalDocuments
  else throw .unexpectedToken

/-- The document of a text; none for a text without one. -/
def parse (text : String) : Except YamlError (Option Document) := do
  let all ← tokens text
  match all with
  | [] => return none
  | all =>
    let (names, rest) ← parseDirectives Names.initial false [] all
    if rest.length = all.length ∧ all.head? ≠ some .documentStart then
      return some (← parseRoot names false all)
    else
      match rest with
      | .documentStart :: rest => return some (← parseRoot names true rest)
      | _ => throw .unexpectedToken

end RuleMetrics.Yaml
