/-! # Lexical rules of a language -/

namespace SourceCensus

/-- A pair of markers around a stretch of text. -/
structure Fence where
  opener : List Char
  closer : List Char
  deriving DecidableEq, Repr

structure Lexis where
  /-- Markers of a comment that runs to the end of its line, tried in order. -/
  lineMarkers : List (List Char) := []
  /-- Characters that make an operator of a line marker right before them. -/
  operatorTails : List Char := []
  block : Option Fence := none
  /-- Whether a block comment may hold another. -/
  nests : Bool := false
  /-- Whether an apostrophe delimits strings, as a double quote always does. -/
  singleQuotes : Bool := false
  /-- Whether three quotes delimit a string that may span lines. -/
  tripleQuotes : Bool := false
  /-- The markers of a directive: it is code, though it may open like a block comment. -/
  directive : Option Fence := none
  deriving DecidableEq, Repr

/-- A language: its name, its lexical rules, and how its files are recognised. -/
structure Language where
  name : String
  extensions : List String := []
  filenames : List String := []
  lexis : Lexis := {}
  interpreters : List String := []
  deriving DecidableEq, Repr

end SourceCensus
