import RuleMetrics.Glob.Pattern
import RuleMetrics.Text.Cut

/-!
# Matching paths

Patterns are matched against the bytes of a path.  The matcher follows all ways to match at once:
after some pieces it holds the rests of the path that are still to be matched.  They are suffixes
of one text, so they are told apart by their length, and they are kept longest first and each
once.

A path that ends in two dots leads to a directory further up and has no file name.  A pattern that
can be decided by the file name or by its extension alone does not describe such a path, even if
its pieces match.
-/

namespace RuleMetrics.Glob

/-- The rests in either of two sets. -/
def union : List (List UInt8) → List (List UInt8) → List (List UInt8)
  | [], bs => bs
  | as, [] => as
  | a :: as, b :: bs =>
    if a.length = b.length then a :: union as bs
    else if b.length < a.length then a :: union as (b :: bs)
    else b :: union (a :: as) bs

/-- The suffixes of a text, longest first. -/
def suffixes : List UInt8 → List (List UInt8)
  | [] => [[]]
  | b :: rest => (b :: rest) :: suffixes rest

/-- What may be left after any bytes: every suffix of the longest rest. -/
def skipAny : List (List UInt8) → List (List UInt8)
  | [] => []
  | longest :: _ => suffixes longest

/-- What is left after one byte of some kind. -/
def skipByte (accepts : UInt8 → Bool) (rests : List (List UInt8)) : List (List UInt8) :=
  rests.filterMap fun rest =>
    match rest with
    | [] => none
    | b :: tail => if accepts b then some tail else none

/-- What is left after a slash. -/
def skipSlash : List (List UInt8) → List (List UInt8) :=
  skipByte fun b => b == 0x2f

/-- The ranges of bytes that a range of characters lists.  A character of several bytes lists
each of them. -/
def byteRanges (first last : Char) : List (UInt8 × UInt8) :=
  let single (b : UInt8) : UInt8 × UInt8 := (b, b)
  let low := String.utf8EncodeChar first
  let high := String.utf8EncodeChar last
  if first = last then low.map single
  else
    match low.getLast?, high with
    | some b, c :: more => low.dropLast.map single ++ (b, c) :: more.map single
    | _, _ => []

/-- Whether ranges of characters list a byte. -/
def listsByte (ranges : List (Char × Char)) (b : UInt8) : Bool :=
  ranges.any fun r => (byteRanges r.1 r.2).any fun s => decide (s.1 ≤ b) && decide (b ≤ s.2)

mutual

/-- What is left after a piece. -/
def Piece.skip : Piece → List (List UInt8) → List (List UInt8)
  | .literal c, rests =>
    (String.utf8EncodeChar c).foldl (fun rests b => skipByte (fun x => x == b) rests) rests
  | .anyByte, rests => skipByte (fun _ => true) rests
  | .byteIn negated ranges, rests => skipByte (fun b => listsByte ranges b != negated) rests
  | .run, rests => skipAny rests
  | .leadingLevels, rests => union rests (skipSlash (skipAny rests))
  | .innerLevels, rests =>
    union (skipSlash rests) (skipSlash (skipAny (skipSlash rests)))
  | .trailingLevels, rests => skipAny (skipSlash rests)
  | .group [], rests => rests
  | .group (b :: bs), rests => skipEither (b :: bs) rests

/-- What is left after all of some pieces. -/
def skipAll : List Piece → List (List UInt8) → List (List UInt8)
  | [], rests => rests
  | p :: ps, rests => skipAll ps (p.skip rests)

/-- What is left after one of some branches. -/
def skipEither : List (List Piece) → List (List UInt8) → List (List UInt8)
  | [], _ => []
  | b :: bs, rests => union (skipAll b rests) (skipEither bs rests)

end

/-! ## File names -/

/-- The text of pieces that are all literal. -/
def literals? (pieces : List Piece) : Option (List Char) :=
  pieces.mapM fun p =>
    match p with
    | .literal c => some c
    | _ => none

/-- Whether a text is a dot and then neither dots nor slashes. -/
def isExtension : List Char → Bool
  | '.' :: rest => !rest.contains '.' && !rest.contains '/'
  | _ => false

/-- Whether pieces end with a literal extension. -/
def endsWithExtension (pieces : List Piece) : Bool :=
  let reversed := pieces.reverse.map fun p =>
    match p with
    | .literal c => some c
    | _ => none
  reversed.find? (fun c => c == some '.' || c == some '/' || c == none) == some (some '.')

/-- Whether the file name of a path, or its extension, decides whether pieces match.  It does not
if the whole path or its end is compared with a literal text that is neither of them. -/
def dependsOnFileName (pieces : List Piece) : Bool :=
  let (levels, rest) :=
    match pieces with
    | .leadingLevels :: rest => (true, rest)
    | _ => (false, pieces)
  let (run, rest) :=
    match rest with
    | .run :: rest => (true, rest)
    | _ => (false, rest)
  match literals? rest with
  | some text => if run then isExtension text else levels && !text.contains '/'
  | none => endsWithExtension pieces

/-- Whether a path has a file name: it does not end in two dots alone. -/
def hasFileName (path : String) : Bool :=
  (Text.piecesOf '/' path).getLast? != some ".."

end Glob

/-- Whether a pattern describes the whole of a path.  Any directories alone match every path. -/
def Glob.accepts (g : Glob) (path : String) : Bool :=
  match g.pieces with
  | [.leadingLevels] => true
  | pieces =>
    (Glob.hasFileName path || !Glob.dependsOnFileName pieces) &&
      (Glob.skipAll pieces [path.toUTF8.toList]).contains []

end RuleMetrics
