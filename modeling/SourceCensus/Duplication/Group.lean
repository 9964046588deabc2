import SourceCensus.Duplication.Location

/-! # Duplicate groups -/

namespace SourceCensus.Duplication

inductive Severity where
  | critical
  | tolerable
  /-- A severity of another name, which has no place in the order. -/
  | other (label : String)
  deriving DecidableEq, Repr

namespace Severity

def label : Severity → String
  | .critical => "Critical"
  | .tolerable => "Tolerable"
  | .other label => label

def ofLabel (label : String) : Severity :=
  if label = "Critical" then .critical else if label = "Tolerable" then .tolerable else .other label

def rank : Severity → Except Fault Nat
  | .critical => .ok 0
  | .tolerable => .ok 1
  | .other label => .error (.unranked label)

def criticalOccurrences : Int := 3

def ofCount (occurrences : Int) : Severity :=
  if criticalOccurrences ≤ occurrences then .critical else .tolerable

end Severity

/-- One occurrence of a block: the path of its file and the numbers of its first and last line. -/
structure Occurrence where
  path : String
  firstLine : Int
  lastLine : Int
  deriving DecidableEq, Repr

structure Group where
  occurrences : List Occurrence
  lineCount : Int
  sample : List (List Char)
  severity : Severity
  deriving DecidableEq, Repr

namespace Group

def duplicatedLines (g : Group) : Int :=
  g.lineCount * ((g.occurrences.length : Int) - 1)

def sampleSize : Int := 5

end Group

def occurrenceAt (files : List CodeFile) (size : Int) (a : Location) : Except Fault Occurrence := do
  let file ← fileAt files a
  let block := file.block a.offset size
  match block.head?, block.getLast? with
  | some first, some last => return ⟨file.path.text, first.number, last.number⟩
  | _, _ => .error .noItem

def groupAt (files : List CodeFile) (size : Int) (s : LocationSet) : Except Fault Group := do
  let occurrences ← s.mapM (occurrenceAt files size)
  match s with
  | [] => .error .noItem
  | first :: _ =>
    return {
      occurrences
      lineCount := size
      sample := ← textsAt files (min size Group.sampleSize) first
      severity := .ofCount occurrences.length }

/-- What groups are sorted by: severity, then duplicated lines from most to fewest, then the path and
the line of the first occurrence. -/
structure SortKey where
  rank : Nat
  fewer : Int
  path : String
  line : Int
  deriving DecidableEq, Repr

namespace SortKey

def le (a b : SortKey) : Bool :=
  if a.rank ≠ b.rank then a.rank < b.rank
  else if a.fewer ≠ b.fewer then a.fewer < b.fewer
  else if a.path ≠ b.path then a.path < b.path
  else a.line ≤ b.line

end SortKey

def Group.sortKey (g : Group) : Except Fault SortKey :=
  match g.occurrences with
  | [] => .error .noItem
  | first :: _ => do
    return ⟨← g.severity.rank, - g.duplicatedLines, first.path, first.firstLine⟩

/-- Groups in order; those with equal keys keep their order. -/
def sortGroups (groups : List Group) : Except Fault (List Group) := do
  let keyed ← groups.mapM fun g => do return (← g.sortKey, g)
  return (keyed.mergeSort fun a b => SortKey.le a.1 b.1).map (·.2)

end SourceCensus.Duplication
