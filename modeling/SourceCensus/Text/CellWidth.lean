import SourceCensus.Text.CellTable
import SourceCensus.Text.Ranges

/-! # Terminal cells -/

namespace SourceCensus.Text

def charWidth (c : Char) : Nat :=
  let n := c.toNat
  if 0x20 ≤ n && n < 0x7F then 1
  else if inRanges zeroWidth n then 0
  else if inRanges doubleWidth n then 2
  else 1

def joiner : Char := '\u200D'

def emojiSelector : Char := '\uFE0F'

/-- Whether a character is wider in its emoji form. -/
def isWidenable (c : Char) : Bool :=
  inRanges widenable c.toNat

/-- The number of cells of a text.  `joined` says that the next character belongs to the glyph
before, and `last` is the last character with a cell of its own, if its form was not chosen yet. -/
def cellWidthFrom (joined : Bool) (last : Option Char) : List Char → Nat
  | [] => 0
  | c :: rest =>
    if joined then cellWidthFrom false last rest
    else if c = joiner then cellWidthFrom true last rest
    else if c = emojiSelector then
      (if last.any isWidenable then 1 else 0) + cellWidthFrom false none rest
    else if charWidth c = 0 then cellWidthFrom false last rest
    else charWidth c + cellWidthFrom false (some c) rest

def cellWidth (s : List Char) : Nat :=
  cellWidthFrom false none s

/-- The smallest part of a text that a terminal shows in one place. -/
structure Glyph where
  text : List Char
  width : Nat
  deriving DecidableEq, Repr

/-- The glyphs of a text behind the glyph under way, which is `text` in reverse and takes `width`
cells. -/
def glyphsFrom (text : List Char) (width : Nat) (joined : Bool) (last : Option Char) :
    List Char → List Glyph
  | [] => [⟨text.reverse, width⟩]
  | c :: rest =>
    if joined then glyphsFrom (c :: text) width false last rest
    else if c = joiner then glyphsFrom (c :: text) width true last rest
    else if c = emojiSelector then
      if last.any isWidenable then glyphsFrom (c :: text) (width + 1) false none rest
      else glyphsFrom (c :: text) width false last rest
    else if charWidth c = 0 then glyphsFrom (c :: text) width false last rest
    else ⟨text.reverse, width⟩ :: glyphsFrom [c] (charWidth c) false (some c) rest

def glyphs : List Char → List Glyph
  | [] => []
  | c :: rest =>
    glyphsFrom [c] (charWidth c) false (if charWidth c = 0 then none else some c) rest

theorem flatMap_text_glyphsFrom (s text : List Char) (width : Nat) (joined : Bool)
    (last : Option Char) :
    (glyphsFrom text width joined last s).flatMap (·.text) = text.reverse ++ s := by
  induction s generalizing text width joined last with
  | nil => simp [glyphsFrom]
  | cons c rest ih =>
    unfold glyphsFrom
    repeat' split
    all_goals simp [ih]

theorem flatMap_text_glyphs (s : List Char) : (glyphs s).flatMap (·.text) = s := by
  cases s with
  | nil => rfl
  | cons c rest => simp [glyphs, flatMap_text_glyphsFrom]

end SourceCensus.Text
