import SourceCensus.Source.Reading
import SourceCensus.Walk.Exclusion
import SourceCensus.Walk.IgnoreFiles
import SourceCensus.Walk.TestName

/-! # Walking a tree: a queue of directories, and what becomes of their entries -/

namespace SourceCensus.Walk

/-- What a walk leaves out. -/
structure Policy where
  excludeTests : Bool
  exclusion : Exclusion
  /-- Whether a path below the root is ignored; the second argument says whether it is a
  directory. -/
  ignored : String → Bool → Bool

inductive Fate where
  | passed
  | skipped
  | entered
  | kept (language : Language)
  deriving DecidableEq, Repr

def relativeText (names : List String) : String :=
  "/".intercalate names

def Policy.leavesDirectory (policy : Policy) (names : List String) : Bool :=
  let name := names.getLast?.getD ""
  policy.ignored (relativeText names) true || policy.exclusion.excludesDirectory name ||
    (policy.excludeTests && testDirectories.contains name)

def Policy.leavesFile (policy : Policy) (names : List String) : Bool :=
  policy.ignored (relativeText names) false || policy.exclusion.excludesFile (relativeText names) ||
    (policy.excludeTests && isTestName (names.getLast?.getD ""))

/-- What a walk from `root` does with the entry `names` below it.  An entry that leads nowhere is
passed by, but one that is too long to be looked up, or leads to a name that is, stops the walk. -/
def fate (store : Store) (root : List String) (policy : Policy) (names : List String) :
    Except AccessFault Fate :=
  let place := root ++ names
  match store.fullStatus place with
  | .error .nameTooLong => .error ⟨.nameTooLong, store.pathText place⟩
  | .ok .directory =>
    if names.getLast? = some reservedDirectory || store.isLink place then .ok .passed
    else if policy.leavesDirectory names then .ok .skipped
    else .ok .entered
  | .ok (.file _) =>
    if policy.leavesFile names then .ok .skipped
    else
      match languageOf? store place with
      | some language => .ok (.kept language)
      | none => .ok .passed
  | _ => .ok .passed

/-- Where a walk stands: the directories that it has still to look into, the next one first, and
what it has found. -/
structure Progress where
  queue : List (List String) := []
  sources : List Source := []
  skipped : Nat := 0
  deriving DecidableEq, Repr

/-- The entries of a directory, by their names below the root.  One that cannot be listed gives a
notice. -/
def entriesOf {ε : Type} (store : Store) (root directory : List String) :
    Run ε (List (List String)) :=
  let place := root ++ directory
  match store.fullList place with
  | .ok names => ⟨[], .ok (names.map fun name => directory ++ [name])⟩
  | .error cause =>
    let path := store.pathText place
    ⟨[.unlistable path (AccessFault.message ⟨cause, path⟩)], .ok []⟩

def meet (store : Store) (root : List String) (policy : Policy) (progress : Progress)
    (names : List String) : Except AccessFault Progress := do
  match ← fate store root policy names with
  | .passed => return progress
  | .skipped => return { progress with skipped := progress.skipped + 1 }
  | .entered => return { progress with queue := progress.queue ++ [names] }
  | .kept language =>
    let source := ⟨root ++ names, relativeText names, language⟩
    return { progress with sources := progress.sources ++ [source] }

def lookInto (store : Store) (root : List String) (policy : Policy) (directory : List String)
    (progress : Progress) : Run AccessFault Progress := do
  let entries ← entriesOf store root directory
  Run.ofExcept (entries.foldlM (meet store root policy) progress)

/-- Looks into at most `fuel` directories, one after the other, those that are entered on the way
behind all others. -/
def walkQueue (store : Store) (root : List String) (policy : Policy) :
    Nat → Progress → Run AccessFault Progress
  | fuel + 1, ⟨directory :: queue, sources, skipped⟩ => do
    let progress ← lookInto store root policy directory ⟨queue, sources, skipped⟩
    walkQueue store root policy fuel progress
  | _, progress => pure progress

/-- The source files below a directory.  No more directories than the store has entries stand below
it. -/
def walk (store : Store) (root : List String) (policy : Policy) : Run AccessFault (List Source) := do
  let found ← walkQueue store root policy (store.entries.length + 1) { queue := [[]] }
  Run.note (.walked (store.pathText root) found.sources.length found.skipped)
  return found.sources

/-- Why a walk does not end with source files. -/
inductive WalkFault where
  | invalidPath (fault : PathFault)
  | linkLoop (path : String)
  /-- The root, or an entry below it, cannot be looked up. -/
  | access (fault : AccessFault)
  | rules (fault : RulesFault)
  deriving DecidableEq, Repr

def linkLoopMessage (path : String) : String :=
  "Symlink loop from " ++ Text.quoted path

/-- The source files at the name of a real path: those below a directory, or a file itself if its
language is known. -/
def sourcesInside (store : Store) (root : List String) (excludeTests : Bool)
    (exclusion : Exclusion) : Run WalkFault (List Source) :=
  match store.fullStatus root with
  | .error .tooManyLinks => Run.fault (.linkLoop (store.pathText root))
  | .error .nameTooLong => Run.fault (.access ⟨.nameTooLong, store.pathText root⟩)
  | .ok (.file _) =>
    return (languageOf? store root).toList.map fun language =>
      ⟨root, root.getLast?.getD "", language⟩
  | _ => do
    let rules ← (loadRules store root).mapFault .rules
    let ignored (path : String) (isDirectory : Bool) : Bool :=
      Ignore.ignoresEntry rules path.toList isDirectory
    (walk store root { excludeTests, exclusion, ignored }).mapFault .access

def sourcesOutside (path : Path) : Run WalkFault (List Source) := do
  let cause := if path.isTooLong then .nameTooLong else Store.outsideCause path.parts
  let fault : AccessFault := ⟨cause, path.text⟩
  if cause = .nameTooLong then Run.fault (.access fault)
  else
    Run.note (.rulesLoaded 0 0)
    Run.note (.unlistable path.text fault.message)
    Run.note (.walked path.text 0 0)
    return []

def sourcesAt (store : Store) (names : List String) (excludeTests : Bool) (exclusion : Exclusion) :
    Run WalkFault (List Source) := do
  match ← Run.ofExcept ((store.realPath names).mapError .invalidPath) with
  | .inside root => sourcesInside store root excludeTests exclusion
  | .outside path => sourcesOutside path

end SourceCensus.Walk
