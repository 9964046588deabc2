import SourceCensus.Report.Marked
import SourceCensus.Text.CellCut

/-! # Word wrap -/

namespace SourceCensus.Report

open Text (isBlank cellWidth CellFault)

/-- What happens to a word that fits on no line. -/
inductive Overlong where
  | cut
  | shorten
  deriving DecidableEq, Repr

def tabSize : Nat := 8

/-- The positions right behind the occurrences of a character, where the text starts at
`position`. -/
def positionsBehind (c : Char) (position : Nat) : List Char → List Nat
  | [] => []
  | d :: rest =>
    if d = c then (position + 1) :: positionsBehind c (position + 1) rest
    else positionsBehind c (position + 1) rest

/-- Pieces that end with a tab, from the cell `column` on, each filled with blanks to a tab stop. -/
def fillToStops (column : Nat) : List Marked → List Marked
  | [] => []
  | piece :: rest =>
    if piece.text.getLast? = some '\t' then
      let filled := piece.text.dropLast ++ [' ']
      let stop := column + cellWidth filled
      let blanks := (tabSize - stop % tabSize) % tabSize
      (Marked.extendEnd { piece with text := filled } blanks) :: fillToStops (stop + blanks) rest
    else piece :: fillToStops (column + cellWidth piece.text) rest

def expandTabs (t : Marked) : Marked :=
  if t.text.contains '\t' then
    Marked.concat (fillToStops 0 (t.cutAt (positionsBehind '\t' 0 t.text)))
  else t

/-- A text cut into words, each with the blanks after it; the first also has those before it.  A text
of blanks only has no words. -/
def blankedWords (s : List Char) : List (List Char) :=
  match h : s.dropWhile isBlank with
  | [] => []
  | c :: rest =>
    let tail := rest.dropWhile (! isBlank ·)
    (s.takeWhile isBlank ++ c :: rest.takeWhile (! isBlank ·) ++ tail.takeWhile isBlank) ::
      blankedWords (tail.dropWhile isBlank)
termination_by s.length
decreasing_by
  have h₁ : (c :: rest).length ≤ s.length := by
    rw [← h]
    exact (List.dropWhile_sublist _).length_le
  have h₂ : (rest.dropWhile (! isBlank ·)).length ≤ rest.length :=
    (List.dropWhile_sublist _).length_le
  have h₃ : ((rest.dropWhile (! isBlank ·)).dropWhile isBlank).length ≤
      (rest.dropWhile (! isBlank ·)).length :=
    (List.dropWhile_sublist _).length_le
  simp only [List.length_cons] at h₁
  omega

def pieceStarts (position : Nat) : List (List Char) → List Nat
  | [] => []
  | piece :: rest => position :: pieceStarts (position + piece.length) rest

/-- Where lines break before words, the first of which starts at `position`; `used` are the cells of
the line under way.  There is no break at the start of the text. -/
def breaksFrom (overlong : Overlong) (width position used : Nat) : List (List Char) → List Nat
  | [] => []
  | word :: rest =>
    let needed := cellWidth (Text.trimEnd word)
    let next := position + word.length
    if used + needed ≤ width then
      breaksFrom overlong width next (used + cellWidth word) rest
    else
      let pieces := if width < needed && overlong = .cut then Text.chop width word else [word]
      (pieceStarts position pieces).filter (0 < ·) ++
        breaksFrom overlong width next (pieces.getLast?.elim used cellWidth) rest

def breaks (overlong : Overlong) (width : Nat) (s : List Char) : List Nat :=
  breaksFrom overlong width 0 0 (blankedWords s)

/-- A line without the blanks at its end that reach over the width. -/
def trimOverhang (width : Nat) (line : Marked) : Marked :=
  let length := line.text.length
  let blanks := length - (Text.trimEnd line.text).length
  line.setText (line.text.take (length - min blanks (length - width)))

def fit (overlong : Overlong) (width : Nat) (line : Marked) : Except CellFault Marked :=
  if cellWidth line.text ≤ width then .ok line
  else
    match overlong with
    | .cut => return line.setText (← Text.cut width line.text)
    | .shorten => return line.setText ((← Text.cut (width - 1) line.text) ++ ['…'])

/-- A paragraph in lines without overhanging blanks; a line may still be too wide. -/
def wrapParagraph (overlong : Overlong) (width : Nat) (t : Marked) : List Marked :=
  let t := expandTabs t
  (t.cutAt (breaks overlong width t.text)).map (trimOverhang width)

inductive Alignment where
  | ragged
  | left
  | right
  | center
  deriving DecidableEq, Repr

/-- The text fitted into room of the given width, with blanks around it. -/
def align (overlong : Overlong) (alignment : Alignment) (width : Nat) (t : Marked) :
    Except CellFault Marked :=
  let free := fun (t : Marked) => width - cellWidth t.text
  match alignment with
  | .ragged => .ok t
  | .left => return (← fit overlong width t).padEnd (free t)
  | .right => do
    let t ← fit overlong width (t.setText (Text.trimEnd t.text))
    return t.padStart (free t)
  | .center => do
    let t ← fit overlong width (t.setText (Text.trimEnd t.text))
    let t := t.padStart (free t / 2)
    return t.padEnd (free t)

def alignParagraph (overlong : Overlong) (alignment : Alignment) (width : Nat) (t : Marked) :
    Except CellFault (List Marked) := do
  let lines ← (wrapParagraph overlong width t).mapM (align overlong alignment width)
  lines.mapM (fit overlong width)

/-- A marked text in lines of the given width. -/
def wrap (overlong : Overlong) (alignment : Alignment) (width : Nat) (t : Marked) :
    Except CellFault (List Marked) := do
  let paragraphs ← (t.splitOn '\n').mapM (alignParagraph overlong alignment width)
  return paragraphs.flatten

end SourceCensus.Report
