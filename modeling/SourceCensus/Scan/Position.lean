import SourceCensus.Scan.Step
import SourceCensus.Sequence.Slice

/-! # Steps at a position -/

namespace SourceCensus.Scan

/-- The step beyond the end of the line, where no marker can stand, not even an empty one. -/
def stepBeyond (state : State) : Option Step :=
  match state with
  | .normal => none
  | .literal (.plain _) => none
  | .literal (.triple _) => some (.ofCode 1 none)
  | .comment _ => some (.ofComment 1 none)

/-- The position of the first occurrence of `pattern` that does not start before a signed position;
there is none beyond the end. -/
def findFrom? (pattern line : List Char) (position : Int) : Option Nat :=
  if line.length < position then none
  else
    let start := Sequence.clamp line.length position
    (Text.find? pattern (line.drop start)).map (start + ·)

/-- The end of a directive whose opener stands at a signed position. -/
def Fence.stop (fence : Fence) (line : List Char) (position : Int) : Nat :=
  match findFrom? fence.closer line (position + fence.opener.length) with
  | some start => start + fence.closer.length
  | none => line.length

def passDirectiveAt (lexis : Lexis) (line rest : List Char) (position : Int) : Option Step :=
  match lexis.directive with
  | some fence =>
    if fence.opener.isPrefixOf rest then
      some (.ofCode ((Fence.stop fence line position : Int) - position).toNat none)
    else none
  | none => none

/-- Whether one of the markers starts a comment at a signed position; none if the character behind a
marker cannot be told. -/
def marksCommentAt? (lexis : Lexis) (line rest : List Char) (position : Int) :
    List (List Char) → Option Bool
  | [] => some false
  | marker :: markers =>
    if marker.isPrefixOf rest then
      let follow := position + marker.length
      if lexis.operatorTails.isEmpty || line.length ≤ follow then some true
      else
        (Sequence.item? line follow).bind fun c =>
          if lexis.operatorTails.contains c then
            marksCommentAt? lexis line rest position markers
          else some true
    else marksCommentAt? lexis line rest position markers

/-- The step outside of strings and comments that looks characters up in the line. -/
def stepNormalBack (lexis : Lexis) (line rest : List Char) (position : Int) : Option Step :=
  openTriple lexis rest <|> passDirectiveAt lexis line rest position <|> openBlock lexis rest <|>
    (marksCommentAt? lexis line rest position lexis.lineMarkers).bind fun marked =>
      if marked then some .restIsComment
      else
        (Sequence.item? line position).bind fun _ => openPlain lexis rest <|> passCharacter rest

/-- The step inside a string that looks characters up in the line. -/
def stepLiteralBack (delimiter : Literal) (line rest : List Char) (position : Int) : Option Step :=
  match delimiter with
  | .triple _ => stepLiteral delimiter rest
  | .plain _ =>
    (Sequence.item? line position).bind fun c =>
      if c = '\\' then
        some (.ofCode (min (position + 2) line.length - position).toNat none)
      else stepLiteral delimiter rest

/-- The step at a signed position that looks characters up in the line.  There is none where no character
is found. -/
def stepBack (lexis : Lexis) (state : State) (line : List Char) (position : Int) : Option Step :=
  let rest := line.drop (Sequence.clamp line.length position)
  match state with
  | .normal => stepNormalBack lexis line rest position
  | .literal delimiter => stepLiteralBack delimiter line rest position
  | .comment depth => some (stepComment lexis depth rest)

def stepAt (lexis : Lexis) (state : State) (line : List Char) (position : Int) : Option Step :=
  if position < 0 then stepBack lexis state line position
  else if line.length < position then stepBeyond state
  else step lexis state (line.drop position.toNat)

end SourceCensus.Scan
