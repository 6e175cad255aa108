import RuleMetrics.Command.Run
import RuleMetrics.Syntax.TreeText

/-!
# The program

Takes a picture of the files that a command looks at, runs the command on it, and does with the
answer what it says.  The syntax tree of a source file is read from the text beside it whose name
has `.tree` added.

The picture holds the directory that is checked, as deep as it goes, and single files for the other
commands and options.  What is not there is not in it; what is there but cannot be read ends the
program with the error that the system gives.  So the error comes before those that the command
would find, and it also comes for a source file, which a run would report as skipped.
-/

namespace RuleMetrics.Main

/-- The file at a path, with its syntax tree if there is one beside it. -/
def readSource (path : String) : IO Source := do
  let content ← IO.FS.readBinFile path
  let tree ← try IO.FS.readFile (path ++ ".tree") catch _ => pure ""
  return ⟨content, SyntaxTree.ofText content tree⟩

/-! ## The directory that is checked -/

/-- The extensions of the files that built-in rules look at. -/
def handledExtensions : List String :=
  match builtinRegistry with
  | .ok registry => (builtinRules registry).flatMap Rule.extensions
  | .error _ => []

/-- What stands in a directory, save for directories that are passed over and files that no rule
looks at.  Links are followed. -/
def readEntries : Nat → Array IO.FS.DirEntry → IO (List (String × FileTree))
  | 0, _ => throw (IO.userError FileError.nameTooLong.message)
  | depth + 1, entries =>
    entries.toList.filterMapM fun e => do
      match (← e.path.metadata).type with
      | .dir =>
        if FileTree.isPassedOver e.fileName then return none
        let below ← readEntries depth (← e.path.readDir)
        return some (e.fileName, .directory below)
      | .file =>
        if handledExtensions.contains (FilePath.extensionOf e.fileName) then
          return some (e.fileName, .file (← readSource e.path.toString))
        else return none
      | _ => return none

/-- No directory is deeper: each name on the way to it takes two bytes of its path at least, with
the slash before it, and the system takes no path of more than 4095 bytes. -/
def maxDepth : Nat := 2048

/-! ## Pictures of files -/

/-- Add what pieces of a path lead to from a place, as far as it is there. -/
def addPieces (fs : FileSystem) (place : List String) : List String → IO FileSystem
  | [] => return fs
  | piece :: rest => do
    if FilePath.isVoid piece then addPieces fs place rest
    else if piece == ".." then addPieces fs place.dropLast rest
    else
      let below := place ++ [piece]
      if (fs.root.at? below).isSome then addPieces fs below rest
      else
        let path := FileSystem.absolutePath below
        match ← EIO.toBaseIO (IO.FS.realPath path) with
        | .error _ => return fs
        | .ok real =>
          if ← real.isDir then addPieces (fs.put below (.directory [])) below rest
          else return fs.put below (.file (← readSource path))

/-- Add what a path leads to and the directories on the way, without what stands in them. -/
def addPath (fs : FileSystem) (path : String) : IO FileSystem :=
  let p := FilePath.ofString path
  addPieces fs (fs.start p) p.pieces

/-- Add what a path leads to, and all that is below if it is a directory. -/
def addTree (fs : FileSystem) (path : String) : IO FileSystem := do
  let fs ← addPath fs path
  match fs.resolve path with
  | .error _ => return fs
  | .ok place =>
    match fs.root.at? place with
    | some (.directory _) =>
      let real ← IO.FS.realPath (FileSystem.absolutePath place)
      return fs.put place (.directory (← readEntries maxDepth (← real.readDir)))
    | _ => return fs

/-- The paths at which a command looks for a single file. -/
def filePaths : Invocation → List String
  | .check _ ruleset _ catalog =>
    (match ruleset with
      | some path => [path]
      | none => Check.rulesetNames) ++ catalog.toList
  | .method _ _ catalog => catalog.toList
  | .aliases catalog => catalog.toList
  | .rules catalog => catalog.toList
  | .init output => [output]

/-- The files that a command looks at. -/
def snapshot (invocation : Invocation) : IO FileSystem := do
  let here := (← IO.currentDir).toString
  let place := (FilePath.ofString here).pieces.filter fun piece => !FilePath.isVoid piece
  let start ← addPath ⟨.directory [], place⟩ here
  let checked ←
    match invocation with
    | .check path .. => addTree start path
    | _ => pure start
  -- a directory that is passed over may still be the working directory or hold a single file
  (here :: filePaths invocation).foldlM addPath checked

/-! ## Running -/

/-- Write the file that a command wrote. -/
def writeBack (invocation : Invocation) (response : Response) : IO Unit := do
  match invocation, response.outcome with
  | .init output, .success =>
    match response.files.read output with
    | .ok source =>
      match (FilePath.ofString output).parent? with
      | some parent => if parent.components ≠ [] then IO.FS.createDirAll parent.toString
      | none => pure ()
      IO.FS.writeBinFile output source.content
    | .error _ => pure ()
  | _, _ => pure ()

end RuleMetrics.Main

open RuleMetrics in
/-- Run the command that the arguments describe. -/
def main (args : List String) : IO UInt32 := do
  match Invocation.parse args with
  | .error e =>
    IO.eprintln e.message
    return e.exitCode.toUInt32
  | .ok invocation =>
    try
      let files ← Main.snapshot invocation
      let mode := if ← (← IO.getStdout).isTty then ColorMode.colored else ColorMode.plain
      let response := invocation.run files mode
      Main.writeBack invocation response
      IO.print response.output
      IO.eprint response.errors
      return response.outcome.exitCode.toUInt32
    catch e =>
      IO.eprintln ("Error: " ++ toString e)
      return Outcome.error.exitCode.toUInt32
