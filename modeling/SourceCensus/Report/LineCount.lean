import SourceCensus.Report.Duplication
import SourceCensus.Source.Census

/-! # Reports on line counts -/

namespace SourceCensus.Report

def countedFiles (c : Census) : Int :=
  Sequence.total (c.languages.map (·.files))

def languageDocument (l : LanguageCount) : Document :=
  .object [("name", .text l.name.toList), ("files", .integer l.files),
    ("blank", .integer l.tally.blank), ("comment", .integer l.tally.comment),
    ("code", .integer l.tally.code)]

def censusDocument (c : Census) : Document :=
  .object [("languages", .list (c.languages.map languageDocument)),
    ("totals", .object [("files", .integer (countedFiles c)), ("blank", .integer c.totals.blank),
      ("comment", .integer c.totals.comment), ("code", .integer c.totals.code)])]

def countCells (files : Int) (tally : Tally) : Except ReportFault (List Marked) := do
  let numbers ← [files, tally.blank, tally.comment, tally.code].mapM intText
  return numbers.map fun number => .ofText number.toList

def countHeading : List Marked :=
  ["Language", "Files", "Blank", "Comment", "Code"].map (.ofText ·.toList)

/-- The name of a language, which is read as markup.  In a terminal without room for text it is not
read. -/
def languageName (terminal : Terminal) (l : LanguageCount) : Except ReportFault Marked :=
  if Table.hasRoom terminal.width countHeading.length then
    (Marked.ofMarkup l.name.toList).mapError .markup
  else .ok (.ofText [])

def censusTable (terminal : Terminal) (c : Census) : Except ReportFault Table := do
  let numbers ← c.languages.mapM fun l => countCells l.files l.tally
  let sums ← countCells (countedFiles c) c.totals
  let names ← c.languages.mapM (languageName terminal)
  return {
    alignments := [.left, .right, .right, .right, .right]
    heading := some countHeading
    rows := List.zipWith List.cons names numbers
    sums := [.ofText "Total".toList :: sums] }

def counters (c : Census) : Except ReportFault String := do
  return "total_files=" ++ (← intText c.totalFiles) ++ " unique_files=" ++
    (← intText c.uniqueFiles) ++ " duplicate_files=" ++ (← intText c.duplicateFiles) ++
    " binary_files=" ++ (← intText c.binaryFiles) ++ " errors=" ++ toString c.errors.length ++
    " elapsed_ms=" ++ (← intText c.elapsed)

def nothingFound (terminal : Terminal) : Except ReportFault (List Line) :=
  printPlain terminal "No recognized source files found."

def censusLines (terminal : Terminal) (c : Census) (verbose : Bool) :
    Except ReportFault (List Line) := do
  if c.languages.isEmpty then return ← nothingFound terminal
  let lines ← printTable terminal (← censusTable terminal c)
  if verbose then return lines ++ (← printPlain terminal (← counters c)) else return lines

end SourceCensus.Report
