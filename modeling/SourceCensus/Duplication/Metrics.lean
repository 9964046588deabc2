import SourceCensus.Duplication.Group
import SourceCensus.Number.Binary64
import SourceCensus.Sequence.Total

/-! # Duplication metrics -/

namespace SourceCensus.Duplication

/-- The numbers that sum up a search for duplicates. -/
structure Metrics where
  totalLines : Int
  duplicatedLines : Int
  groups : Int
  files : Int
  largestBlock : Int
  deriving DecidableEq, Repr

/-- A quotient of two integers is beyond the range of binary64 numbers. -/
inductive Overflow where
  | quotientTooLarge
  deriving DecidableEq, Repr

def Overflow.message : Overflow → String
  | .quotientTooLarge => "integer division result too large for a float"

namespace Metrics

/-- Duplicated lines in percent of all lines; zero where there are no lines. -/
def percentage (m : Metrics) : Except Overflow Number.Binary64 :=
  if m.totalLines = 0 then .ok .zero
  else
    match Number.Binary64.ofQuotient? m.duplicatedLines m.totalLines with
    | some quotient => .ok (quotient.timesNat 100)
    | none => .error .quotientTooLarge

end Metrics

/-- The metrics of a project and its groups. -/
def summarize (files : List CodeFile) (groups : List Group) : Metrics where
  totalLines := Sequence.total (files.map fun file => (file.lines.length : Int))
  duplicatedLines := Sequence.total (groups.map Group.duplicatedLines)
  groups := groups.length
  files := (groups.flatMap fun g => g.occurrences.map (·.path)).eraseDups.length
  largestBlock := (groups.map (·.lineCount)).max?.getD 0

/-- Numbers of groups and of duplicated lines by severity. -/
structure Breakdown where
  criticalGroups : Int
  tolerableGroups : Int
  criticalLines : Int
  tolerableLines : Int
  deriving DecidableEq, Repr

def ofSeverity (severity : Severity) (groups : List Group) : List Group :=
  groups.filter (·.severity == severity)

def breakdown (groups : List Group) : Breakdown where
  criticalGroups := (ofSeverity .critical groups).length
  tolerableGroups := (ofSeverity .tolerable groups).length
  criticalLines := Sequence.total ((ofSeverity .critical groups).map Group.duplicatedLines)
  tolerableLines := Sequence.total ((ofSeverity .tolerable groups).map Group.duplicatedLines)

/-- What to think of a percentage. -/
inductive Assessment where
  | excellent
  | good
  | moderate
  | high
  | veryHigh
  deriving DecidableEq, Repr

namespace Assessment

def ofPercentage (x : Number.Binary64) : Assessment :=
  if x.below 3 then .excellent
  else if x.below 5 then .good
  else if x.below 10 then .moderate
  else if x.below 20 then .high
  else .veryHigh

def label : Assessment → String
  | .excellent => "Excellent"
  | .good => "Good"
  | .moderate => "Moderate"
  | .high => "High"
  | .veryHigh => "Very High"

end Assessment

end SourceCensus.Duplication
