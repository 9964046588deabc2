import SourceCensus.Path.Basic
import SourceCensus.Scan.Line
import SourceCensus.Sequence.Slice

/-! # Code lines -/

namespace SourceCensus

/-- A line of code: its number in the file, counted from 1, and its trimmed text. -/
structure CodeLine where
  number : Int
  text : List Char
  deriving DecidableEq, Repr

structure CodeFile where
  path : Path
  lines : List CodeLine
  deriving DecidableEq, Repr

namespace CodeFile

/-- The code lines of a block: `size` lines from the offset on, or as many as there are. -/
def block (file : CodeFile) (offset size : Int) : List CodeLine :=
  Sequence.slice file.lines offset (offset + size)

def blockTexts (file : CodeFile) (offset size : Int) : List (List Char) :=
  (file.block offset size).map (·.text)

end CodeFile

namespace CodeLine

open Scan (LineKind)

def ofLine? (entry : (List Char × LineKind) × Nat) : Option CodeLine :=
  if entry.1.2 = .code then some ⟨entry.2, Text.trim entry.1.1⟩ else none

/-- The code lines among lines of the given kinds. -/
def ofKinds (lines : List (List Char)) (kinds : List LineKind) : List CodeLine :=
  ((lines.zip kinds).zipIdx 1).filterMap ofLine?

end CodeLine

def testMarker : List Char :=
  ['#', '[', 'c', 'f', 'g', '(', 't', 'e', 's', 't', ')', ']']

/-- Whether a line starts an inline test module. -/
def isTestMarker (line : List Char) : Bool :=
  Text.trim line == testMarker

/-- The number of lines before the first inline test module. -/
def testStart (lines : List (List Char)) : Nat :=
  lines.findIdx isTestMarker

end SourceCensus
