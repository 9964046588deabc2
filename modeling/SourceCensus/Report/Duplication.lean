import SourceCensus.Duplication.Metrics
import SourceCensus.Report.Json
import SourceCensus.Report.Markup
import SourceCensus.Report.Table

/-! # Reports on duplication -/

namespace SourceCensus.Report

open Duplication

/-- How a report is printed: the width of the terminal and whether styles are used. -/
structure Terminal where
  width : Nat := 80
  color : Bool := true
  deriving DecidableEq, Repr

/-- The greatest number of groups that are shown unless all are asked for. -/
def groupLimit : Int := 20

def displayLimit (total : Int) (showAll : Bool) : Int :=
  if showAll then total else min groupLimit total

inductive ReportFault where
  | overflow (cause : Overflow)
  | unstyled (label : String)
  | digits (cause : Text.DigitFault)
  | markup (cause : MarkupFault)
  | layout (cause : LayoutFault)
  deriving DecidableEq, Repr

def ReportFault.message : ReportFault → String
  | .overflow cause => cause.message
  | .unstyled label => Text.quoted label
  | .digits cause => cause.message
  | .markup cause => cause.message
  | .layout cause => cause.message

def percentageOf (m : Metrics) : Except ReportFault Number.Binary64 :=
  m.percentage.mapError .overflow

def intText (n : Int) : Except ReportFault String :=
  (Text.writeInteger n).mapError .digits

def documentText (d : Document) : Except ReportFault String :=
  d.format.mapError .digits

def printText (terminal : Terminal) (t : Marked) : Except ReportFault (List Line) :=
  (printedLines terminal.width t).mapError .layout

def printPlain (terminal : Terminal) (s : String) : Except ReportFault (List Line) :=
  printText terminal (.ofText (Text.withEmoji s.toList))

def printTable (terminal : Terminal) (t : Table) : Except ReportFault (List Line) :=
  (t.lines terminal.width).mapError .layout

def occurrenceDocument (o : Occurrence) : Document :=
  .object [("file_path", .text o.path.toList), ("start_line", .integer o.firstLine),
    ("end_line", .integer o.lastLine)]

def groupDocument (g : Group) : Document :=
  .object [("locations", .list (g.occurrences.map occurrenceDocument)),
    ("line_count", .integer g.lineCount), ("sample", .list (g.sample.map .text)),
    ("severity", .text g.severity.label.toList), ("duplicated_lines", .integer g.duplicatedLines)]

def duplicationDocument (m : Metrics) (groups : List Group) : Except ReportFault Document := do
  let percentage ← percentageOf m
  return .object [
    ("metrics", .object [("total_code_lines", .integer m.totalLines),
      ("duplicated_lines", .integer m.duplicatedLines),
      ("duplication_percentage", .real percentage), ("duplicate_groups", .integer m.groups),
      ("files_with_duplicates", .integer m.files), ("largest_block", .integer m.largestBlock),
      ("assessment", .text (Assessment.ofPercentage percentage).label.toList)]),
    ("groups", .list (groups.map groupDocument))]

abbrev SummaryRow := String × String

def severityRow (label : String) (groups lines : Int) : Except ReportFault (List SummaryRow) := do
  if groups = 0 then return []
  return [(label, (← intText groups) ++ " groups, " ++ (← intText lines) ++ " lines")]

def largestRow (m : Metrics) : Except ReportFault (List SummaryRow) := do
  if m.largestBlock ≤ 0 then return []
  return [("Largest duplicate", (← intText m.largestBlock) ++ " lines")]

def summaryRows (m : Metrics) (groups : List Group) : Except ReportFault (List SummaryRow) := do
  let percentage ← percentageOf m
  let b := breakdown groups
  return [("Total code lines", ← intText m.totalLines),
      ("Duplicated lines", ← intText m.duplicatedLines),
      ("Duplication", percentage.fixedText ++ "%"),
      ("Duplicate groups", ← intText m.groups),
      ("Files with duplicates", ← intText m.files)] ++ (← largestRow m) ++
    (← severityRow "Critical duplicates (3+)" b.criticalGroups b.criticalLines) ++
    (← severityRow "Tolerable duplicates (2x)" b.tolerableGroups b.tolerableLines) ++
    [("Assessment", (Assessment.ofPercentage percentage).label)]

def summaryTable (rows : List SummaryRow) : Table where
  title := some "Duplication Analysis".toList
  alignments := [.left, .right]
  rows := rows.map fun row => [.ofText row.1.toList, .ofText row.2.toList]

def summaryLines (terminal : Terminal) (m : Metrics) (groups : List Group) :
    Except ReportFault (List Line) := do
  printTable terminal (summaryTable (← summaryRows m groups))

def severityStyle : Severity → Except ReportFault String
  | .critical => .ok "bold red"
  | .tolerable => .ok "yellow"
  | .other label => .error (.unstyled label)

def labelled (style label rest : String) : Marked where
  text := (label ++ rest).toList
  marks := [⟨0, label.length, style.toList⟩]

def separatorLines (terminal : Terminal) : List Line :=
  if terminal.width = 0 then []
  else [[⟨.ofColor "cyan", List.replicate terminal.width '-'⟩]]

def groupsHeading : Marked :=
  let opening := "Duplicate groups ".toList
  let remark := "sorted by severity, then duplicated lines".toList
  let start := opening.length
  let stop := start + 1 + remark.length
  { text := opening ++ '(' :: remark ++ [')']
    marks := [⟨start, start + 1, "bold".toList⟩, ⟨stop, stop + 1, "bold".toList⟩] }

/-- What stands for the lines of a group that the sample leaves out. -/
def ellipsis : Marked where
  text := "  ...".toList
  marks := [⟨2, 5, "yellow".toList⟩]

def sampleLines (terminal : Terminal) (g : Group) : Except ReportFault (List Line) := do
  if g.sample.isEmpty then return []
  let opening ← printPlain terminal "Sample:"
  let lines ← g.sample.mapM fun line =>
    printText terminal (.ofText (Text.withEmoji (' ' :: ' ' :: line)))
  let rest ← if (g.sample.length : Int) < g.lineCount then printText terminal ellipsis else pure []
  return opening ++ lines.flatten ++ rest

def occurrenceLines (terminal : Terminal) (o : Occurrence) : Except ReportFault (List Line) := do
  printPlain terminal
    ("  " ++ o.path ++ ":" ++ (← intText o.firstLine) ++ "-" ++ (← intText o.lastLine))

def groupHeading (position : Nat) (g : Group) : Except ReportFault Marked := do
  let style ← severityStyle g.severity
  let label := "[" ++ toString position ++ "] " ++ g.severity.label.toUpper
  return labelled style label (": " ++ (← intText g.lineCount) ++ " lines, " ++
    toString g.occurrences.length ++ " occurrences (" ++ (← intText g.duplicatedLines) ++
    " duplicated lines)")

def groupLines (terminal : Terminal) (position : Nat) (g : Group) :
    Except ReportFault (List Line) := do
  let heading ← printText terminal (← groupHeading position g)
  let occurrences ← g.occurrences.mapM (occurrenceLines terminal)
  return separatorLines terminal ++ heading ++ occurrences.flatten ++ (← sampleLines terminal g)

def hintLines (terminal : Terminal) (shown : Nat) (total : Int) :
    Except ReportFault (List Line) := do
  if total ≤ shown then return []
  let count ← printPlain terminal
    ("Showing top " ++ toString shown ++ " of " ++ (← intText total) ++ " duplicate groups.")
  return count ++ (← printPlain terminal "Use --show-all to see all groups.")

/-- The lines of the detailed report: the summary of the groups that are shown, and these groups. -/
def detailLines (terminal : Terminal) (m : Metrics) (shown : List Group) (total : Int) :
    Except ReportFault (List Line) := do
  let summary ← summaryLines terminal m shown
  if shown.isEmpty then return summary
  let heading ← printText terminal groupsHeading
  let blocks ← (shown.zipIdx 1).mapM fun (g, position) => groupLines terminal position g
  let hint ← hintLines terminal shown.length total
  return summary ++ heading ++ blocks.flatten ++ separatorLines terminal ++ hint

end SourceCensus.Report
