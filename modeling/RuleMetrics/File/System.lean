import RuleMetrics.File.Tree

/-!
# A file system

A file system is a tree of files and the place where relative paths start.  Every operation takes a
path as a text, which is followed piece by piece: each piece but the last has to lead into a
directory.

A name has 255 bytes at most and a path 4095.  The length of a path does not matter where it is
only resolved, since that is done one name at a time.
-/

namespace RuleMetrics

/-- Why a file operation fails. -/
inductive FileError where
  | notFound
  | alreadyExists
  | notDirectory
  | isDirectory
  | nameTooLong
  /-- A path holds a character that ends texts for the system. -/
  | unusablePath
  | notText
deriving Repr, DecidableEq

/-- The wording of an error. -/
def FileError.message : FileError → String
  | notFound => "No such file or directory (os error 2)"
  | alreadyExists => "File exists (os error 17)"
  | notDirectory => "Not a directory (os error 20)"
  | isDirectory => "Is a directory (os error 21)"
  | nameTooLong => "File name too long (os error 36)"
  | unusablePath => "file name contained an unexpected NUL byte"
  | notText => "stream did not contain valid UTF-8"

/-- A file system. -/
structure FileSystem where
  root : FileTree
  /-- The place where relative paths start. -/
  workingDirectory : List String

namespace FileSystem

/-! ## Following paths -/

/-- Whether a name has more bytes than a name can have. -/
def isLongName (name : String) : Bool :=
  255 < name.utf8ByteSize

/-- Whether a path has more bytes than a path can have. -/
def isLongPath (path : String) : Bool :=
  4095 < path.utf8ByteSize

/-- The path, if it can be handed to the system at all. -/
def usable (path : String) : Except FileError String :=
  if path.toList.contains '\x00' then .error .unusablePath
  else if isLongPath path then .error .nameTooLong
  else .ok path

/-- The place that pieces of a path lead to from a place. -/
def follow (t : FileTree) (place : List String) : List String → Except FileError (List String)
  | [] => .ok place
  | piece :: rest =>
    match t.at? place with
    | none => .error .notFound
    | some (.file _) => .error .notDirectory
    | some (.directory entries) =>
      if FilePath.isVoid piece then follow t place rest
      else if piece == ".." then follow t place.dropLast rest
      else if isLongName piece then .error .nameTooLong
      else if (entries.lookup piece).isSome then follow t (place ++ [piece]) rest
      else .error .notFound

/-- The place where a path starts. -/
def start (fs : FileSystem) (p : FilePath) : List String :=
  if p.absolute then [] else fs.workingDirectory

/-- The place that a path leads to. -/
def resolve (fs : FileSystem) (path : String) : Except FileError (List String) :=
  if path = "" then .error .notFound
  else if path.toList.contains '\x00' then .error .unusablePath
  else
    let p := FilePath.ofString path
    follow fs.root (fs.start p) p.pieces

/-- What a path leads to. -/
def open? (fs : FileSystem) (path : String) : Except FileError FileTree := do
  let place ← fs.resolve (← usable path)
  match fs.root.at? place with
  | some t => .ok t
  | none => .error .notFound

/-- Whether a path leads to something. -/
def contains (fs : FileSystem) (path : String) : Bool :=
  (fs.open? path).toOption.isSome

/-- Whether a path leads to a directory. -/
def containsDirectory (fs : FileSystem) (path : String) : Bool :=
  match fs.open? path with
  | .ok (.directory _) => true
  | _ => false

/-- The absolute path of a place. -/
def absolutePath (place : List String) : String :=
  "/" ++ Text.join "/" place

/-! ## Reading -/

/-- The file that a path leads to. -/
def read (fs : FileSystem) (path : String) : Except FileError Source := do
  match ← fs.open? path with
  | .file source => .ok source
  | .directory _ => .error .isDirectory

/-- The text of the file that a path leads to. -/
def readText (fs : FileSystem) (path : String) : Except FileError String := do
  let source ← fs.read path
  match String.fromUTF8? source.content with
  | some text => .ok text
  | none => .error .notText

/-! ## Writing -/

/-- Put something at a place. -/
def put (fs : FileSystem) (place : List String) (t : FileTree) : FileSystem :=
  { fs with root := fs.root.put t place }

/-- The place of a directory that pieces lead to, and its entries. -/
def enter (fs : FileSystem) (p : FilePath) (pieces : List String) :
    Except FileError (List String × List (String × FileTree)) := do
  let place ← follow fs.root (fs.start p) pieces
  match fs.root.at? place with
  | some (.directory entries) => .ok (place, entries)
  | some (.file _) => .error .notDirectory
  | none => .error .notFound

/-- The pieces of a path without empty ones at the end, and whether there were any. -/
def withoutSlashes (p : FilePath) : List String × Bool :=
  let pieces := (p.pieces.reverse.dropWhile fun piece => piece == "").reverse
  (pieces, pieces.length < p.pieces.length)

/-- Make a directory in a directory that is there. -/
def makeDirectory (fs : FileSystem) (path : String) : Except FileError FileSystem := do
  let p := FilePath.ofString (← usable path)
  let (pieces, _) := withoutSlashes p
  match pieces.getLast? with
  | none => if p.absolute then .error .alreadyExists else .error .notFound
  | some last =>
    let (place, entries) ← fs.enter p pieces.dropLast
    if last == "." || last == ".." || (entries.lookup last).isSome then .error .alreadyExists
    else if isLongName last then .error .nameTooLong
    else .ok (fs.put (place ++ [last]) (.directory []))

/-- Make a directory and those around it that are not there.  The paths are those of the directory
and of the ones around it, the innermost first. -/
def makeDirectories (fs : FileSystem) : List String → Except FileError FileSystem
  | [] => .ok fs
  | path :: around =>
    let settle (fs : FileSystem) (e : FileError) : Except FileError FileSystem :=
      if fs.containsDirectory path then .ok fs else .error e
    match fs.makeDirectory path with
    | .ok fs => .ok fs
    | .error .notFound => do
      let fs ← fs.makeDirectories around
      match fs.makeDirectory path with
      | .ok fs => .ok fs
      | .error e => settle fs e
    | .error e => settle fs e

/-- Write a file, which replaces one that is there.  A path with a slash at its end is taken for
that of a directory. -/
def write (fs : FileSystem) (path : String) (source : Source) : Except FileError FileSystem := do
  let p := FilePath.ofString (← usable path)
  let (pieces, slashed) := withoutSlashes p
  match pieces.getLast? with
  | none => if p.absolute then .error .isDirectory else .error .notFound
  | some last =>
    let (place, entries) ← fs.enter p pieces.dropLast
    if last == "." || last == ".." || slashed then .error .isDirectory
    else if isLongName last then .error .nameTooLong
    else
      match entries.lookup last with
      | some (.directory _) => .error .isDirectory
      | _ => .ok (fs.put (place ++ [last]) (.file source))

end FileSystem

end RuleMetrics
