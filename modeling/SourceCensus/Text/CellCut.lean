import SourceCensus.Text.CellWidth

/-! # Cutting a text at a cell -/

namespace SourceCensus.Text

inductive CellFault where
  | noCells
  | pastEnd
  deriving DecidableEq, Repr

def CellFault.message : CellFault → String
  | noCells => "division by zero"
  | pastEnd => "list index out of range"

def glyphCells (gs : List Glyph) : Nat :=
  gs.foldr (fun g rest => g.width + rest) 0

def cutGlyphs (width : Nat) : List Glyph → List Char
  | [] => []
  | g :: rest =>
    if width = 0 then []
    else if g.width ≤ width then g.text ++ cutGlyphs (width - g.width) rest
    else [' ']

def cut (width : Nat) (s : List Char) : Except CellFault (List Char) :=
  let cells := glyphCells (glyphs s)
  if width = 0 then .ok []
  else if cells = 0 then .error .noCells
  else if cells < width then .error .pastEnd
  else .ok (cutGlyphs width (glyphs s))

/-- Glyphs gathered into pieces that fit the width, each as long as possible.  `piece` is the piece
under way and `used` its cells; a last piece without cells is left out. -/
def chopFrom (width : Nat) (piece : List Char) (used : Nat) : List Glyph → List (List Char)
  | [] => if used = 0 then [] else [piece]
  | g :: rest =>
    if width < used + g.width then piece :: chopFrom width g.text g.width rest
    else chopFrom width (piece ++ g.text) (used + g.width) rest

def chop (width : Nat) (s : List Char) : List (List Char) :=
  chopFrom width [] 0 (glyphs s)

end SourceCensus.Text
