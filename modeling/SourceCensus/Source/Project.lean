import SourceCensus.Source.Normalized
import SourceCensus.Source.Reading

/-! # Normalising a project -/

namespace SourceCensus

/-- The code lines of a reading.  With `strip`, the first inline test module and all that follows it
is left out. -/
def Reading.codeLines (reading : Reading) (strip : Bool) : List CodeLine :=
  let stop := if strip then testStart reading.lines else reading.lines.length
  CodeLine.ofKinds (reading.lines.take stop) (reading.kinds.take stop)

/-- The code lines of a source file; none for a binary file. -/
def normalizeSource (store : Store) (source : Source) (strip : Bool) :
    Run ReadFault (Option CodeFile) := do
  let reading? ← readSource store source.language.lexis source.names
  return reading?.map fun reading => ⟨Path.ofText source.path, reading.codeLines strip⟩

/-- The outcome of a source file, with a notice where it cannot be read. -/
def normalizeOrSkip (store : Store) (strip : Bool) (source : Source) :
    Run PathFault (FileOutcome CodeFile) := do
  match ← readOrSkip store source with
  | .text reading => return .text ⟨Path.ofText source.path, reading.codeLines strip⟩
  | .binary => return .binary
  | .failed error => return .failed error

structure ProjectScan where
  files : List CodeFile
  errors : List ScanError
  binaryFiles : Nat
  deriving DecidableEq, Repr

namespace ProjectScan

def ofOutcomes (outcomes : List (FileOutcome CodeFile)) : ProjectScan where
  files := outcomes.filterMap fun outcome => match outcome with
    | .text file => some file
    | _ => none
  errors := outcomes.filterMap fun outcome => match outcome with
    | .failed error => some error
    | _ => none
  binaryFiles := outcomes.countP fun outcome => match outcome with
    | .binary => true
    | _ => false

end ProjectScan

/-- Who reads the files of a project. -/
inductive Workers where
  | single
  | several
  deriving DecidableEq, Repr

/-- One file after another.  Several workers give the notices of the other files also where a fault
ends the whole. -/
def Workers.proceed {ε α β : Type} (workers : Workers) (first : Run ε α) (spare : α)
    (next : α → Run ε β) : Run ε β :=
  match workers, first.outcome with
  | .several, .error fault => ⟨first.notices ++ (next spare).notices, .error fault⟩
  | _, _ => first >>= next

def fillSlots (workers : Workers) (store : Store) (strip : Bool) (sources : List Source) :
    List Nat → List (FileOutcome CodeFile) → Run PathFault (List (FileOutcome CodeFile))
  | [], slots => pure slots
  | position :: rest, slots =>
    match sources[position]? with
    | none => fillSlots workers store strip sources rest slots
    | some source =>
      workers.proceed (normalizeOrSkip store strip source) .binary fun outcome =>
        fillSlots workers store strip sources rest (slots.set position outcome)

/-- The code lines of all files, whose outcomes come in the order `completion`. -/
def normalizeIn (workers : Workers) (store : Store) (sources : List Source) (strip : Bool)
    (completion : List Nat) : Run PathFault ProjectScan := do
  let slots ←
    fillSlots workers store strip sources completion (List.replicate sources.length .binary)
  let scan := ProjectScan.ofOutcomes slots
  Run.note (.normalized scan.files.length scan.binaryFiles scan.errors.length)
  return scan

inductive ProjectFault where
  /-- The number of workers makes no sense. -/
  | jobsNotPositive
  | invalidPath (fault : PathFault)
  deriving DecidableEq, Repr

def ProjectFault.message : ProjectFault → String
  | .jobsNotPositive => "jobs must be > 0"
  | .invalidPath fault => fault.message

def Workers.ofJobs (jobs : Int) : Workers :=
  if jobs = 1 then .single else .several

/-- The code lines of all files of a project. -/
def normalizeProject (store : Store) (sources : List Source) (strip : Bool) (jobs : Int) :
    Run ProjectFault ProjectScan :=
  if jobs ≤ 0 then Run.fault .jobsNotPositive
  else
    (normalizeIn (.ofJobs jobs) store sources strip (List.range sources.length)).mapFault .invalidPath

end SourceCensus
