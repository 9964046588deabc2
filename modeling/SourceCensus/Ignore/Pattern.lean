import SourceCensus.Ignore.Glob

/-! # Patterns -/

namespace SourceCensus.Ignore

/-- One part of a pattern. -/
inductive Part where
  | exact (c : Char)
  | one
  | oneOf (set : CharSet)
  | many (least : Nat)
  | leading
  | between
  | slash
  | mark
  /-- A directory mark, or the end of the path. -/
  | finish
  deriving DecidableEq, Repr

/-- The first result among numbers of characters from `most` down to `least`. -/
def longestFirst (most least : Nat) (f : Nat → Option Bool) : Option Bool :=
  ((List.range (most + 1 - least)).map (most - ·)).findSome? f

/-- The number of characters at the start of a text that satisfy `p`. -/
def countWhile (p : Char → Bool) (s : List Char) : Nat :=
  (s.takeWhile p).length

/-- Tries a part at the start of a text and `next` on what is left.  The result says whether a
directory mark took part in the match. -/
def Part.attempt (part : Part) (next : List Char → Option Bool) (s : List Char) : Option Bool :=
  match part with
  | .exact c =>
    match s with
    | d :: rest => if d = c then next rest else none
    | [] => none
  | .one =>
    match s with
    | d :: rest => if d = '/' then none else next rest
    | [] => none
  | .oneOf set =>
    match s with
    | d :: rest => if set.holds d then next rest else none
    | [] => none
  | .many least => longestFirst (countWhile (· != '/') s) least fun n => next (s.drop n)
  | .leading =>
    (longestFirst (countWhile (· != '\n') s) 1 fun n =>
      match s.drop n with
      | '/' :: rest => next rest
      | _ => none).or (next s)
  | .between =>
    match s with
    | '/' :: rest =>
      (longestFirst (countWhile (· != '\n') rest) 1 fun n => next (rest.drop n)).or (next s)
    | _ => next s
  | .slash =>
    match s with
    | '/' :: rest => next rest
    | _ => none
  | .mark =>
    match s with
    | '/' :: rest => (next rest).map fun _ => true
    | _ => none
  | .finish =>
    match s with
    | '/' :: rest => (next rest).map fun _ => true
    | [] => next s
    | ['\n'] => next s
    | _ => none

def attemptAll : List Part → List Char → Option Bool
  | [], _ => some false
  | part :: parts, s => part.attempt (attemptAll parts) s

inductive Pattern where
  /-- Every path with a character other than a line feed. -/
  | anything
  /-- Every path with a slash; `marked` says whether that is a directory mark. -/
  | nested (marked : Bool)
  | sequence (parts : List Part)
  deriving DecidableEq, Repr

/-- Whether the pattern matches a path, and whether a directory mark took part. -/
def Pattern.matchPath (pattern : Pattern) (path : List Char) : Option Bool :=
  match pattern with
  | .anything => if path.any (· != '\n') then some false else none
  | .nested marked => if path.contains '/' then some marked else none
  | .sequence parts => attemptAll parts path

inductive PatternFlaw where
  /-- Nothing is left to match, or a backslash has nothing to stand before. -/
  | invalid
  /-- A bracket is not closed, so that the line stands for nothing. -/
  | unclosed
  | reversedRange
  deriving DecidableEq, Repr

/-- A segment of a pattern: any directories, or a glob. -/
inductive Segment where
  | directories
  | glob (text : List Char)
  deriving DecidableEq, Repr

def Segment.ofText (text : List Char) : Segment :=
  if text = ['*', '*'] then .directories else .glob text

/-- The list without an item that equals its left neighbour and means any directories. -/
def collapse : List Segment → List Segment
  | .directories :: .directories :: rest => collapse (.directories :: rest)
  | segment :: rest => segment :: collapse rest
  | [] => []

/-- The segments of a pattern text, and whether it ends with a slash.  A text without an inner slash
may match at any depth. -/
def segments (text : List Char) : List Segment × Bool :=
  let pieces := Text.splitOn '/' text
  let isDirectory := pieces.getLast? = some []
  let rooted := match pieces with
    | [] :: rest => rest
    | [piece] => if piece = ['*', '*'] then pieces else [['*', '*'], piece]
    | [piece, []] => if piece = ['*', '*'] then pieces else [['*', '*'], piece, []]
    | _ => pieces
  let closed := match rooted.getLast? with
    | some [] => rooted.dropLast ++ [['*', '*']]
    | _ => rooted
  (collapse (closed.map Segment.ofText), isDirectory)

def Token.part : Token → Except PatternFlaw Part
  | .exact c => .ok (.exact c)
  | .many => .ok (.many 0)
  | .one => .ok .one
  | .bracket negated body =>
    match ranges? body with
    | some ranges => .ok (.oneOf ⟨negated, ranges⟩)
    | none => .error .reversedRange

/-- An item of a pattern before its brackets are read. -/
abbrev Draft := Part ⊕ Token

def draftGlob (text : List Char) : Except PatternFlaw (List Draft) :=
  if text = ['*'] then .ok [.inl (.many 1)]
  else
    match tokens text with
    | .ok list => .ok (list.map .inr)
    | .error .unclosed => .error .unclosed
    | .error .danglingBackslash => .error .invalid

/-- The draft of the segments after the first; a slash comes before each glob. -/
def draftRest (isDirectory : Bool) : List Segment → Except PatternFlaw (List Draft)
  | [] => .ok []
  | [.directories] => .ok [.inl (if isDirectory then .mark else .slash)]
  | .directories :: rest => return .inl .between :: (← draftRest isDirectory rest)
  | [.glob text] => return .inl .slash :: (← draftGlob text) ++ [.inl .finish]
  | .glob text :: rest =>
    return .inl .slash :: (← draftGlob text) ++ (← draftRest isDirectory rest)

/-- The draft of all segments.  After any directories at the start no slash is needed. -/
def draft (isDirectory : Bool) : List Segment → Except PatternFlaw (List Draft)
  | .directories :: .glob text :: rest => do
    let first ← draftGlob text
    let tail ← if rest.isEmpty then pure [.inl .finish] else draftRest isDirectory rest
    return .inl .leading :: first ++ tail
  | .glob text :: rest => do
    let first ← draftGlob text
    let tail ← if rest.isEmpty then pure [.inl .finish] else draftRest isDirectory rest
    return first ++ tail
  | list => draftRest isDirectory list

def readDraft (list : List Draft) : Except PatternFlaw (List Part) :=
  list.mapM fun item =>
    match item with
    | .inl part => .ok part
    | .inr token => token.part

def Pattern.ofText (text : List Char) : Except PatternFlaw Pattern :=
  match segments text with
  | ([], _) => .error .invalid
  | ([.directories], isDirectory) => .ok (if isDirectory then .nested true else .anything)
  | ([.directories, .glob ['*']], _) => .ok .anything
  | ([.directories, .glob ['*'], .directories], isDirectory) => .ok (.nested isDirectory)
  | (list, isDirectory) => do return .sequence (← readDraft (← draft isDirectory list))

end SourceCensus.Ignore
