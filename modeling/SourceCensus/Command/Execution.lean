import SourceCensus.Command.Arguments
import SourceCensus.Digest.Md5
import SourceCensus.Duplication.Detection
import SourceCensus.Report.LineCount
import SourceCensus.Source.Project
import SourceCensus.Store.Write
import SourceCensus.Walk.Traversal

/-! # Carrying out a command line -/

namespace SourceCensus.Command

inductive Exit where
  | success
  | failure
  deriving DecidableEq, Repr

def Exit.code : Exit → Nat
  | .success => 0
  | .failure => 2

/-- What a run leaves. -/
structure Outcome where
  exit : Exit := .success
  output : String := ""
  errors : String := ""
  /-- Why the command line was refused, unless help was asked for. -/
  usage : Option String := none
  store : Store
  deriving DecidableEq, Repr

inductive Need where
  | path
  | number
  | extension
  | directory
  deriving DecidableEq, Repr

def Need.message : Need → String
  | .path => "expected str, bytes or os.PathLike object, not list"
  | .number => "'<=' not supported between instances of 'list' and 'int'"
  | .extension => "'list' object has no attribute 'lstrip'"
  | .directory => "unhashable type: 'list'"

/-- What a run does not foresee. -/
inductive Fault where
  /-- A setting was given without the value that it needs. -/
  | withheld (need : Need)
  /-- The path to look at cannot be looked up. -/
  | access (fault : AccessFault)
  | rule (fault : Ignore.RuleFault)
  | linkLoop (path : String)
  | invalidPath (fault : PathFault)
  | detection (fault : Duplication.Fault)
  | report (fault : Report.ReportFault)

def Fault.message? : Fault → Option String
  | .withheld need => some need.message
  | .access fault => some fault.message
  | .rule fault => fault.message?
  | .linkLoop path => some (Walk.linkLoopMessage path)
  | .invalidPath fault => some fault.message
  | .detection fault => some fault.message
  | .report fault => some fault.message

/-- Why a task ends early. -/
inductive Stop where
  | complaint (text : String)
  | fault (fault : Fault)

/-- The run that gives a notice and ends with a complaint. -/
def complain {α : Type} (notice : Notice) (text : String) : Run Stop α :=
  ⟨[notice], .error (.complaint text)⟩

def demand (options : Options) (setting : Setting) (need : Need) : Run Stop Unit :=
  if options.withheld.contains setting then Run.fault (.fault (.withheld need)) else pure ()

def presentAt? (store : Store) (path : Path) : Except AccessFault (Option (List String)) :=
  if path.hasNull then .ok none
  else if path.isTooLong then .error ⟨.nameTooLong, path.text⟩
  else
    match store.namesOf? path with
    | none => .ok none
    | some names =>
      match store.status names with
      | .ok _ => .ok (some names)
      | .error .nameTooLong => .error ⟨.nameTooLong, path.text⟩
      | .error _ => .ok none

/-- Ends a run whose ignore files cannot be read. -/
def rulesUnreadable {α : Type} (message : String) : Run Stop α :=
  complain (.rulesUnreadable message) ("Failed to read .gitignore files: " ++ message ++ "\n")

def stopWalk {α : Type} : Walk.WalkFault → Run Stop α
  | .invalidPath fault => Run.fault (.fault (.invalidPath fault))
  | .linkLoop path => Run.fault (.fault (.linkLoop path))
  | .access fault => rulesUnreadable fault.message
  | .rules (.unreadable fault) => rulesUnreadable fault.message
  | .rules (.undecodable fault) => rulesUnreadable fault.message
  | .rules (.unusable fault) => Run.fault (.fault (.rule fault))

def Options.exclusion (options : Options) : Except Ignore.RuleFault Exclusion :=
  Exclusion.ofLists options.includeExtensions options.excludeExtensions options.excludeDirectories
    options.excludeGlobs

def collectSources (store : Store) (options : Options) : Run Stop (List Source) := do
  demand options .path .path
  let path := Path.ofText options.path
  let names? ← Run.ofExcept ((presentAt? store path).mapError (.fault <| .access ·))
  match names? with
  | none => complain (.pathMissing path.text) ("Path does not exist: " ++ path.text ++ "\n")
  | some names =>
    demand options .includeExtension .extension
    demand options .excludeExtension .extension
    demand options .excludeDirectory .directory
    let exclusion ← Run.ofExcept (options.exclusion.mapError (.fault <| .rule ·))
    let walk := Walk.sourcesAt store names (! options.includeTests) exclusion
    Run.mk walk.notices (.ok ())
    match walk.outcome with
    | .ok sources => return sources
    | .error fault => stopWalk fault

def errorLines (errors : List ScanError) : String :=
  String.join (errors.map fun error =>
    "scan_error: " ++ error.path ++ ": " ++ error.message ++ "\n")

def terminal : Report.Terminal := {}

def printed (lines : List Report.Line) : String :=
  Report.renderLines terminal.color lines

def reported {α : Type} (result : Except Report.ReportFault α) : Run Stop α :=
  Run.ofExcept (result.mapError (.fault <| .report ·))

def printedDocument (text : String) : String :=
  String.ofList (Text.withEmoji text.toList) ++ "\n"

def documentText (document : Report.Document) : Run Stop String :=
  reported (Report.documentText document)

/-- Counts lines.  Reading the files took `elapsed` milliseconds. -/
def runCount (elapsed : Int) (store : Store) (options : Options) : Run Stop Outcome := do
  let sources ← collectSources store options
  let taken ← (takeCensus Digest.Md5.digest store sources).mapFault (.fault <| .invalidPath ·)
  let census := { taken with elapsed }
  let errors := errorLines census.errors
  match options.format with
  | .json =>
    let text ← documentText (Report.censusDocument census)
    return { output := printedDocument text, errors, store }
  | .table =>
    let lines ← reported (Report.censusLines terminal census options.verbose)
    return { output := printed lines, errors, store }

def checkNumbers (options : Options) : Run Stop Unit := do
  demand options .minLines .number
  if options.minLines ≤ 0 then
    complain (.blockSizeRefused options.minLines) "min-lines must be > 0\n"
  else
    demand options .jobs .number
    if options.jobs ≤ 0 then
      complain (.jobsRefused options.jobs) "jobs must be > 0\n"

def Options.settings (options : Options) : Duplication.Settings :=
  { minLines := options.minLines, quiet := options.quiet || options.format = .json }

def shownGroups (options : Options) (groups : List Duplication.Group) : List Duplication.Group :=
  groups.take (Report.displayLimit groups.length options.showAll).toNat

def duplicateLines (options : Options) (files : List CodeFile) (groups : List Duplication.Group) :
    Except Report.ReportFault (List Report.Line) :=
  let metrics := Duplication.summarize files groups
  if files.isEmpty then Report.nothingFound terminal
  else if options.report then
    Report.detailLines terminal metrics (shownGroups options groups) groups.length
  else Report.summaryLines terminal metrics groups

def duplicateDocument (options : Options) (files : List CodeFile)
    (groups : List Duplication.Group) : Except Report.ReportFault Report.Document :=
  Report.duplicationDocument (Duplication.summarize files groups) (shownGroups options groups)

def saveDocument (store : Store) (errors target text : String) : Run Stop Outcome :=
  match store.save (Path.ofText target) (Text.Utf8.encode text.toList) with
  | .ok changed => pure { errors, store := changed }
  | .error (.invalidPath fault) => Run.fault (.fault (.invalidPath fault))
  | .error (.access fault) =>
    complain (.outputRefused target fault.message)
      (errors ++ "Failed to write JSON output file: " ++ target ++ "\n")

def runDuplicates (store : Store) (options : Options) : Run Stop Outcome := do
  checkNumbers options
  let sources ← collectSources store options
  let scan ← (normalizeIn (.ofJobs options.jobs) store sources (! options.includeTests)
    (List.range sources.length)).mapFault (.fault <| .invalidPath ·)
  let groups ← (Duplication.detect options.settings scan.files).mapFault (.fault <| .detection ·)
  let errors := errorLines scan.errors
  match options.format with
  | .table =>
    let lines ← reported (duplicateLines options scan.files groups)
    return { output := printed lines, errors, store }
  | .json =>
    let document ← reported (duplicateDocument options scan.files groups)
    let text ← documentText document
    match options.output.getD "" with
    | "" => return { output := printedDocument text, errors, store }
    | target => saveDocument store errors target text

def runTask (elapsed : Int) (store : Store) (request : Request) : Run Stop Outcome :=
  match request.task with
  | .count => runCount elapsed store request.options
  | .duplicates => runDuplicates store request.options

/-- The end of a run: a complaint is printed and exits with a failure. -/
def settle (store : Store) (run : Run Stop Outcome) : Run Fault Outcome :=
  ⟨run.notices,
    match run.outcome with
    | .ok outcome => .ok outcome
    | .error (.complaint text) => .ok { exit := .failure, errors := text, store }
    | .error (.fault fault) => .error fault⟩

/-- Carries out a command line on a store. -/
def execute (elapsed : Int) (store : Store) (arguments : List String) : Run Fault Outcome :=
  match readRequest arguments with
  | .error refused =>
    ⟨[.argumentsRefused (Text.quotedList arguments)],
      .ok { exit := .failure, usage := refused.message?, store }⟩
  | .ok request => settle store (runTask elapsed store request)

end SourceCensus.Command
