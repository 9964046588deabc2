import SourceCensus.Report.Wrap
import SourceCensus.Sequence.Total
import SourceCensus.Text.Lines

/-! # Tables -/

namespace SourceCensus.Report

open Text (cellWidth)

/-- Why a text cannot be laid out. -/
inductive LayoutFault where
  | style (cause : Text.DigitFault)
  | cells (cause : Text.CellFault)
  deriving DecidableEq, Repr

def LayoutFault.message : LayoutFault → String
  | .style cause => cause.message
  | .cells cause => cause.message

/-- A table: an optional title, an optional heading, rows, and rows below a line. -/
structure Table where
  title : Option (List Char) := none
  alignments : List Alignment
  heading : Option (List Marked) := none
  rows : List (List Marked)
  sums : List (List Marked) := []
  deriving DecidableEq, Repr

/-- The characters of a horizontal line. -/
structure Rule where
  left : Char
  fill : Char
  middle : Char
  right : Char
  deriving DecidableEq, Repr

def Line.crop (width : Nat) : Line → Except LayoutFault Line
  | [] => .ok []
  | span :: rest =>
    let used := cellWidth span.text
    if used < width then do return span :: (← Line.crop (width - used) rest)
    else if used = width then .ok [span]
    else do return [{ span with text := ← (Text.cut width span.text).mapError .cells }]

def Line.upTo (width : Nat) (line : Line) : Except LayoutFault Line :=
  if width < line.width then line.crop width else .ok line

def Line.exactly (width : Nat) (line : Line) : Except LayoutFault Line :=
  if line.width < width then
    .ok (line ++ [.ofText (List.replicate (width - line.width) ' ')])
  else line.upTo width

/-- The lines of a text in room of the given width. -/
def layOut (overlong : Overlong) (alignment : Alignment) (width : Nat) (t : Marked) :
    Except LayoutFault (List Line) := do
  let lines ← (wrap overlong alignment width t).mapError .cells
  lines.mapM fun line => line.runs.mapError .style

/-- The lines of a text that is printed on its own.  A terminal without cells shows nothing. -/
def printedLines (terminalWidth : Nat) (t : Marked) : Except LayoutFault (List Line) := do
  if terminalWidth = 0 then return []
  let lines ← layOut .cut .ragged terminalWidth t
  lines.mapM (Line.upTo terminalWidth)

namespace Table

def padding : Nat := 2

def textWidth (s : List Char) : Nat :=
  ((Text.boundaryLines s).map cellWidth).foldl max 0

def cellDemand (limit : Nat) (cell : Marked) : Nat :=
  if limit ≤ padding then limit else min (textWidth cell.text + padding) limit

def allRows (t : Table) : List (List Marked) :=
  t.heading.toList ++ t.rows ++ t.sums

def column (t : Table) (index : Nat) : List Marked :=
  t.allRows.map fun row => row.getD index (.ofText [])

def demand (t : Table) (limit index : Nat) : Nat :=
  ((t.column index).map (cellDemand limit)).foldl max 0

def roundedQuotient (a b : Nat) : Nat :=
  let q := a / b
  if 2 * (a % b) < b || (2 * (a % b) = b && q % 2 = 0) then q else q + 1

/-- Takes `total` from the values of the entries that have a share, in equal parts and never more
than the entry's bound.  An entry is whether it has a share, its bound and its value. -/
def takeEvenly (total shares : Nat) : List (Bool × Nat × Nat) → List Nat
  | [] => []
  | (true, bound, value) :: rest =>
    let taken := min bound (roundedQuotient total shares)
    (value - taken) :: takeEvenly (total - taken) (shares - 1) rest
  | (false, _, value) :: rest => value :: takeEvenly total shares rest

/-- Takes `total` from the values that have a share, in equal parts. -/
def reduce (total : Nat) (entries : List (Bool × Nat × Nat)) : List Nat :=
  takeEvenly total (entries.countP (·.1)) entries

/-- Makes the widest columns narrower, step by step, until all fit the limit. -/
def collapse (limit : Nat) : Nat → List Nat → List Nat
  | 0, widths => widths
  | fuel + 1, widths =>
    let excess := Sequence.totalNat widths - limit
    let widest := widths.foldl max 0
    let second := (widths.filter (· != widest)).foldl max 0
    if excess = 0 || widest = 0 then widths
    else
      let bound := min excess (widest - second)
      collapse limit fuel
        (reduce excess (widths.map fun width => (width == widest, bound, width)))

/-- Whether a terminal of the given width has room for the text of some cell of a table with a number
of columns. -/
def hasRoom (terminalWidth columns : Nat) : Bool :=
  padding < terminalWidth - (columns + 1)

/-- The widths of the columns, padding included, in a terminal of the given width. -/
def widths (t : Table) (terminalWidth : Nat) : List Nat :=
  let columns := List.range t.alignments.length
  let limit := terminalWidth - (t.alignments.length + 1)
  let asked := columns.map fun index => max 1 (t.demand limit index)
  if Sequence.totalNat asked ≤ limit then asked
  else
    let collapsed := collapse limit (Sequence.totalNat asked) asked
    let excess := Sequence.totalNat collapsed - limit
    let reduced := if excess = 0 then collapsed
      else reduce excess (collapsed.map fun width => (0 < width, width, width))
    (reduced.zip columns).map fun (width, index) => t.demand width index

def cellLines (alignment : Alignment) (width : Nat) (style : Style) (cell : Marked) :
    Except LayoutFault (List Line) := do
  if width ≤ padding then return []
  let laid ← layOut .shorten alignment (width - padding) cell
  let lines ← laid.mapM (Line.exactly (width - padding))
  let framed ← lines.mapM fun line =>
    Line.exactly width (.ofText [' '] :: line ++ [.ofText [' ']])
  return framed.map (Line.onStyle style)

def fillHeight (height width : Nat) (style : Style) (below : Bool) (lines : List Line) :
    List Line :=
  let blank := List.replicate (height - lines.length) [⟨style, List.replicate width ' '⟩]
  if below then lines ++ blank else blank ++ lines

def bordered (border : Char) (cells : List Line) : Line :=
  .ofText [border] :: cells.flatMap fun cell => cell ++ [.ofText [border]]

/-- The lines of a row.  Below a cell with fewer lines than its neighbours there are blanks; in the
heading they are above it.  A row without room for any cell is a line of plain blanks. -/
def rowLines (t : Table) (widths : List Nat) (isHeading : Bool) (row : List Marked) :
    Except LayoutFault (List Line) := do
  let style := if isHeading then Style.ofAttribute .bold else .plain
  let cells ← (widths.zip t.alignments).zipIdx.mapM fun ((width, alignment), index) => do
    return (width, ← cellLines alignment width style (row.getD index (.ofText [])))
  let tallest := (cells.map (·.2.length)).foldl max 0
  let height := max 1 tallest
  let filled ← cells.mapM fun (width, lines) =>
    (fillHeight height width (if tallest = 0 then .plain else style) (! isHeading) lines).mapM
      (Line.exactly width)
  return (List.range height).map fun number =>
    bordered (if isHeading then '┃' else '│') (filled.map fun lines => lines.getD number [])

def rule (widths : List Nat) (r : Rule) : Line :=
  let fills := widths.map fun width => List.replicate width r.fill
  .ofText (r.left :: (fills.intersperse [r.middle]).flatten ++ [r.right])

def titleLines (widths : List Nat) (title : List Char) : Except LayoutFault (List Line) := do
  let width := Sequence.totalNat widths + widths.length + 1
  let lines ← layOut .cut .center width (.ofText title)
  return lines.map (Line.onStyle (.ofAttribute .italic))

def rowsLines (t : Table) (widths : List Nat) (isHeading : Bool) (rows : List (List Marked)) :
    Except LayoutFault (List Line) := do
  return (← rows.mapM (t.rowLines widths isHeading)).flatten

def fullLines (t : Table) (terminalWidth : Nat) : Except LayoutFault (List Line) := do
  let widths := t.widths terminalWidth
  let title ← t.title.toList.mapM (titleLines widths)
  let heading ← t.rowsLines widths true t.heading.toList
  let rows ← t.rowsLines widths false t.rows
  let sums ← t.rowsLines widths false t.sums
  let top := if t.heading.isSome then
    rule widths ⟨'┏', '━', '┳', '┓'⟩ :: heading ++ [rule widths ⟨'┡', '━', '╇', '┩'⟩]
    else [rule widths ⟨'┌', '─', '┬', '┐'⟩]
  let bottom := if t.sums.isEmpty then [] else rule widths ⟨'├', '─', '┼', '┤'⟩ :: sums
  return title.flatten ++ top ++ rows ++ bottom ++ [rule widths ⟨'└', '─', '┴', '┘'⟩]

def lines (t : Table) (terminalWidth : Nat) : Except LayoutFault (List Line) := do
  if terminalWidth = 0 then return []
  (← t.fullLines terminalWidth).mapM (Line.upTo terminalWidth)

end Table

end SourceCensus.Report
