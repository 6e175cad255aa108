import RuleMetrics.Text.Cut

/-!
# Paths of files

A path is a text that slashes divide into pieces.  Empty pieces and single dots name nothing, save
for a dot at the start of a relative path, and so two texts can have the same components.

Relative paths are cut out of a text and not put together from components: what stands between
the slashes inside stays as it is written.
-/

namespace RuleMetrics

/-- A path, in pieces as it is written. -/
structure FilePath where
  /-- Whether the text starts with a slash, which is not part of the first piece. -/
  absolute : Bool
  pieces : List String
deriving Repr, DecidableEq

namespace FilePath

/-- One step of a path. -/
inductive Component where
  | root
  /-- The dot at the start of a relative path. -/
  | here
  | up
  | name (name : String)
deriving Repr, DecidableEq

/-- The path that a text writes. -/
def ofString (text : String) : FilePath :=
  match text.toList with
  | '/' :: rest => ⟨true, (Text.pieces '/' rest).map String.ofList⟩
  | cs => ⟨false, (Text.pieces '/' cs).map String.ofList⟩

/-- The text of a path. -/
def toString (p : FilePath) : String :=
  (if p.absolute then "/" else "") ++ Text.join "/" p.pieces

/-- Whether a piece inside a path names nothing. -/
def isVoid (piece : String) : Bool :=
  piece == "" || piece == "."

/-- The component that a piece inside a path names. -/
def componentOf? (piece : String) : Option Component :=
  if isVoid piece then none
  else if piece == ".." then some .up
  else some (.name piece)

/-- Whether a path starts with a dot that counts as a component. -/
def startsHere (p : FilePath) : Bool :=
  !p.absolute && p.pieces.head? == some "."

/-- The component at the start of a path that no piece inside it names. -/
def anchor (p : FilePath) : List Component :=
  if p.absolute then [.root] else if p.startsHere then [.here] else []

/-- The pieces after the anchor. -/
def body (p : FilePath) : List String :=
  if p.startsHere then p.pieces.drop 1 else p.pieces

/-- The steps of a path. -/
def components (p : FilePath) : List Component :=
  p.anchor ++ p.body.filterMap componentOf?

/-- Leave out pieces at the end that name nothing. -/
def trimEnd (pieces : List String) : List String :=
  (pieces.reverse.dropWhile isVoid).reverse

/-! ## Names -/

/-- The name of the file that a path leads to, if its last step is a name. -/
def fileName? (p : FilePath) : Option String :=
  match p.components.getLast? with
  | some (.name name) => some name
  | _ => none

/-- The extension of a file name: what follows its last dot, if something stands before the dot;
otherwise nothing. -/
def extensionOf (name : String) : String :=
  let reversed := name.toList.reverse
  match Text.cut '.' reversed with
  | some (_, []) => ""
  | some (extension, _) => String.ofList extension.reverse
  | none => ""

/-- The extension of the file that a path leads to. -/
def fileExtension (p : FilePath) : String :=
  (p.fileName?.map extensionOf).getD ""

/-! ## Relative paths -/

/-- Drop pieces up to and with the `n`-th that names something. -/
def dropNamed : Nat → List String → List String
  | 0, pieces => pieces
  | _, [] => []
  | n + 1, piece :: rest => if isVoid piece then dropNamed (n + 1) rest else dropNamed n rest

/-- What is left of a path after its first `n` components. -/
def dropComponents (p : FilePath) (n : Nat) : FilePath :=
  if n = 0 then
    let kept := if p.startsHere then p.pieces.take 1 else []
    { p with pieces := kept ++ trimEnd p.body }
  else ⟨false, trimEnd ((dropNamed (n - p.anchor.length) p.body).dropWhile isVoid)⟩

/-- A path relative to a base, if it starts with the components of the base. -/
def relativeTo? (p base : FilePath) : Option FilePath :=
  if base.components.isPrefixOf p.components then
    some (p.dropComponents base.components.length)
  else none

/-! ## Directories around a path -/

/-- Leave out the last piece that names something, and what follows it. -/
def dropLastNamed (pieces : List String) : List String :=
  trimEnd ((pieces.reverse.dropWhile isVoid).drop 1).reverse

/-- The directory that a path lies in: the path without its last step.  It has no step if it is not
named. -/
def parent? (p : FilePath) : Option FilePath :=
  match p.components.getLast? with
  | none => none
  | some .root => none
  | some .here => some ⟨false, []⟩
  | some _ =>
    let kept := if p.startsHere then p.pieces.take 1 else []
    some { p with pieces := kept ++ dropLastNamed p.body }

/-- A path and the directories around it, innermost first, up to a number of paths. -/
def enclosing : Nat → FilePath → List FilePath
  | 0, _ => []
  | n + 1, p =>
    p ::
      match p.parent? with
      | some directory => enclosing n directory
      | none => []

/-- A path and the directories around it that are named, innermost first. -/
def withEnclosing (p : FilePath) : List FilePath :=
  enclosing p.components.length p

end FilePath

end RuleMetrics
