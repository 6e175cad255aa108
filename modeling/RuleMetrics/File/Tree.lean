import RuleMetrics.File.Path
import RuleMetrics.Syntax.Tree

/-!
# Trees of files

A tree of directories and files without links.  A place in it is the list of names that lead to
it from the root.
-/

namespace RuleMetrics

/-- A file, or a directory with its entries. -/
inductive FileTree where
  | file (source : Source)
  | directory (entries : List (String × FileTree))

namespace FileTree

/-- The entry of a directory under a name. -/
def entry? (t : FileTree) (name : String) : Option FileTree :=
  match t with
  | file _ => none
  | directory entries => entries.lookup name

/-- What stands at a place. -/
def at? (t : FileTree) : List String → Option FileTree
  | [] => some t
  | name :: rest =>
    match t.entry? name with
    | some below => below.at? rest
    | none => none

/-- Put something under a name of a directory. -/
def withEntry (t : FileTree) (name : String) (below : FileTree) : FileTree :=
  match t with
  | file source => file source
  | directory entries => directory (entries.filter (fun e => e.1 != name) ++ [(name, below)])

/-- Put something at a place whose directory is there. -/
def put (t : FileTree) (below : FileTree) : List String → FileTree
  | [] => below
  | name :: rest =>
    match rest, t.entry? name with
    | [], _ => t.withEntry name below
    | _ :: _, some inner => t.withEntry name (inner.put below rest)
    | _ :: _, none => t

/-! ## Collecting files -/

/-- Whether a directory of this name is passed over: it is hidden or holds build output. -/
def isPassedOver (name : String) : Bool :=
  name.toList.head? == some '.' || ["target", "build", "node_modules"].contains name

/-- The files below a directory that have one of the given extensions, save for those in directories
that are passed over. -/
def collectEntries (extensions : List String) : List (String × FileTree) → List (List String)
  | [] => []
  | (name, file _) :: rest =>
    let below := collectEntries extensions rest
    if extensions.contains (FilePath.extensionOf name) then [name] :: below else below
  | (name, directory entries) :: rest =>
    let below := collectEntries extensions rest
    if isPassedOver name then below
    else (collectEntries extensions entries).map (fun place => name :: place) ++ below

/-- Whether a place comes before another or is the same: name by name from the root. -/
def comesBefore : List String → List String → Bool
  | [], _ => true
  | _ :: _, [] => false
  | a :: as, b :: bs => decide (a < b) || (a == b && comesBefore as bs)

/-- The files below a tree that have one of the given extensions, in the order of their paths.  The
name of the tree itself does not count, so nothing is collected from a tree that is a file: the walk
is for directories, and a file that is to be checked is taken as it is. -/
def collectFiles (t : FileTree) (extensions : List String) : List (List String) :=
  match t with
  | file _ => []
  | directory entries =>
    (collectEntries extensions entries).mergeSort comesBefore

end FileTree

end RuleMetrics
