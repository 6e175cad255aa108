import RuleMetrics.Text.Quoted

/-!
# Path patterns

A pattern describes paths.  A star stands for any bytes, slashes among them, a question mark for
one byte, a bracketed class for one of the bytes it lists, and braces hold alternatives.  Two
stars that fill the place between slashes stand for any number of directories.

A pattern is read from left to right into pieces, and the first fault ends the reading.
-/

namespace RuleMetrics

/-- Why a text is not a pattern. -/
inductive GlobFault where
  | unclosedClass
  | invalidRange (first : Char) (last : Char)
  | unclosedGroup
  | unopenedGroup
  | danglingEscape
deriving Repr, DecidableEq

/-- The wording of a fault. -/
def GlobFault.message : GlobFault → String
  | unclosedClass => "unclosed character class; missing \x27]\x27"
  | invalidRange first last =>
    "invalid range; \x27" ++ first.toString ++ "\x27 > \x27" ++ last.toString ++ "\x27"
  | unclosedGroup =>
    "unclosed alternate group; missing \x27\x7d\x27 " ++
      "(maybe escape \x27\x7b\x27 with \x27[\x7b]\x27?)"
  | unopenedGroup =>
    "unopened alternate group; missing \x27\x7b\x27 " ++
      "(maybe escape \x27\x7d\x27 with \x27[\x7d]\x27?)"
  | danglingEscape => "dangling \x27\\\x27"

namespace Glob

/-- A part of a pattern. -/
inductive Piece where
  | literal (c : Char)
  | anyByte
  /-- One byte inside the ranges, or outside all of them. -/
  | byteIn (negated : Bool) (ranges : List (Char × Char))
  /-- Any bytes. -/
  | run
  /-- Any directories at the start of a path. -/
  | leadingLevels
  /-- A slash, or directories between two slashes. -/
  | innerLevels
  /-- A slash and everything after it. -/
  | trailingLevels
  /-- One of several alternatives.  With no alternative it stands for nothing. -/
  | group (branches : List (List Piece))
deriving Repr

/-- Whether a piece stands for nothing. -/
def Piece.isBlank : Piece → Bool
  | .group [] => true
  | _ => false

/-- A group of alternatives, of which those that stand for nothing are left out. -/
def Piece.ofBranches (branches : List (List Piece)) : Piece :=
  .group (branches.filter fun b => !b.all Piece.isBlank)

/-! ## Classes -/

/-- Read the ranges of a class, which are collected last one first, up to the closing bracket.
A bracket or a hyphen that comes first stands for itself, and so does a hyphen that comes last;
`afterHyphen` says that the last range waits for its end. -/
def readRanges (ranges : List (Char × Char)) (afterHyphen : Bool) :
    List Char → Except GlobFault (List (Char × Char) × List Char)
  | [] => .error .unclosedClass
  | c :: rest =>
    if c = ']' && !ranges.isEmpty then
      .ok ((if afterHyphen then ('-', '-') :: ranges else ranges).reverse, rest)
    else if c = '-' && !ranges.isEmpty && !afterHyphen then readRanges ranges true rest
    else
      match afterHyphen, ranges with
      | true, (first, _) :: before =>
        if c < first then .error (.invalidRange first c)
        else readRanges ((first, c) :: before) false rest
      | _, _ => readRanges ((c, c) :: ranges) false rest

/-- The text after a class is shorter than the text it was read from. -/
theorem length_le_of_readRanges {ranges : List (Char × Char)} {afterHyphen : Bool}
    {cs : List Char} {r : List (Char × Char) × List Char}
    (h : readRanges ranges afterHyphen cs = .ok r) : r.2.length < cs.length := by
  fun_induction readRanges ranges afterHyphen cs with
  | case1 => simp at h
  | case2 => cases h; simp
  | case3 ranges afterHyphen c rest _ _ ih => have := ih h; simp; omega
  | case4 => simp at h
  | case5 c rest first snd before _ _ _ ih => have := ih h; simp; omega
  | case6 ranges afterHyphen c rest _ _ _ ih => have := ih h; simp; omega

/-- Read a class after its opening bracket. -/
def readClass : List Char → Except GlobFault (Piece × List Char)
  | '!' :: rest => (readRanges [] false rest).map fun r => (.byteIn true r.1, r.2)
  | '^' :: rest => (readRanges [] false rest).map fun r => (.byteIn true r.1, r.2)
  | cs => (readRanges [] false cs).map fun r => (.byteIn false r.1, r.2)

/-- The text after a class is shorter than the text it was read from. -/
theorem length_lt_of_readClass {cs : List Char} {r : Piece × List Char}
    (h : readClass cs = .ok r) : r.2.length < cs.length := by
  have step {cs' : List Char} {f : List (Char × Char) → Piece}
      (h : ((readRanges [] false cs').map fun r => (f r.1, r.2)) = .ok r) :
      r.2.length < cs'.length := by
    cases hr : readRanges [] false cs' with
    | error e => simp [hr, Except.map] at h
    | ok q =>
      simp only [hr, Except.map, Except.ok.injEq] at h
      have := length_le_of_readRanges hr
      rw [← h]
      exact this
  unfold readClass at h
  split at h
  · have := step (f := .byteIn true) h
    simp; omega
  · have := step (f := .byteIn true) h
    simp; omega
  · exact step (f := .byteIn false) h

/-! ## Patterns -/

/-- A group whose closing brace is still to come. -/
structure OpenGroup where
  /-- The pieces before the group, last one first. -/
  before : List Piece
  /-- The finished alternatives of the branch the group stands in, last one first. -/
  siblings : List (List Piece)
deriving Repr

/-- How far a pattern is read. -/
structure Progress where
  /-- The pieces of the branch being read, last one first. -/
  branch : List Piece
  /-- The finished branches of the innermost group, last one first. -/
  finished : List (List Piece)
  /-- The groups that are open, innermost first. -/
  opened : List OpenGroup
deriving Repr

namespace Progress

/-- Nothing read yet. -/
def start : Progress := ⟨[], [], []⟩

/-- Add a piece. -/
def push (s : Progress) (p : Piece) : Progress := { s with branch := p :: s.branch }

/-- Whether a brace is open. -/
def inGroup (s : Progress) : Bool := !s.opened.isEmpty

/-- Open a group. -/
def openGroup (s : Progress) : Progress := ⟨[], [], ⟨s.branch, s.finished⟩ :: s.opened⟩

/-- Close the innermost group. -/
def closeGroup (s : Progress) : Except GlobFault Progress :=
  match s.opened with
  | [] => .error .unopenedGroup
  | g :: outer =>
    let branches := (s.branch.reverse :: s.finished).reverse
    .ok ⟨.ofBranches branches :: g.before, g.siblings, outer⟩

/-- Read a comma: it ends a branch, or stands for itself outside of groups. -/
def comma (s : Progress) : Progress :=
  if s.inGroup then { s with branch := [], finished := s.branch.reverse :: s.finished }
  else s.push (.literal ',')

/-- Read two stars: the progress, and whether the slash after them belongs to them.  They stand
for directories if they fill the place between slashes or the ends of the branch, and for any
bytes, each on its own, otherwise.  Directories after directories add nothing. -/
def stars (s : Progress) (previous : Option Char) (rest : List Char) : Progress × Bool :=
  let runs := (s.push .run).push .run
  match s.branch with
  | [] =>
    match rest with
    | [] => (s.push .leadingLevels, false)
    | '/' :: _ => (s.push .leadingLevels, true)
    | _ => (runs, false)
  | last :: before =>
    let replaceLast (p : Piece) : Progress :=
      match last with
      | .leadingLevels => s
      | .trailingLevels => s
      | _ => { s with branch := p :: before }
    let startsLevel :=
      previous == some '/' || (s.inGroup && (previous == some ',' || previous == some '{'))
    let endsBranch :=
      match rest with
      | [] => true
      | c :: _ => s.inGroup && (c == ',' || c == '}')
    if !startsLevel then (runs, false)
    else if endsBranch then (replaceLast .trailingLevels, false)
    else if rest.head? == some '/' then (replaceLast .innerLevels, true)
    else (runs, false)

end Progress

/-- Read the rest of a pattern after the character `previous`. -/
def readPieces (previous : Option Char) (s : Progress) : List Char → Except GlobFault Progress
  | [] => .ok s
  | '?' :: rest => readPieces (some '?') (s.push .anyByte) rest
  | '*' :: '*' :: rest =>
    match s.stars previous rest with
    | (s, true) => readPieces (some '/') s rest.tail
    | (s, false) => readPieces (some '*') s rest
  | '*' :: rest => readPieces (some '*') (s.push .run) rest
  | '[' :: rest =>
    match _h : readClass rest with
    | .error e => .error e
    | .ok (piece, rest') => readPieces (some ']') (s.push piece) rest'
  | '{' :: rest => readPieces (some '{') s.openGroup rest
  | '}' :: rest =>
    match s.closeGroup with
    | .error e => .error e
    | .ok s => readPieces (some '}') s rest
  | ',' :: rest => readPieces (some ',') s.comma rest
  | '\\' :: rest =>
    match rest with
    | [] => .error .danglingEscape
    | c :: rest => readPieces (some c) (s.push (.literal c)) rest
  | c :: rest => readPieces (some c) (s.push (.literal c)) rest
termination_by cs => cs.length
decreasing_by
  all_goals try have h := length_lt_of_readClass _h
  all_goals simp_all
  all_goals omega

end Glob

/-- A pattern. -/
structure Glob where
  pieces : List Glob.Piece
deriving Repr

/-- Read a pattern. -/
def Glob.parse (text : String) : Except GlobFault Glob :=
  match Glob.readPieces none Glob.Progress.start text.toList with
  | .error e => .error e
  | .ok s => if s.inGroup then .error .unclosedGroup else .ok ⟨s.branch.reverse⟩

end RuleMetrics
