import SourceCensus.Ignore.Rules
import SourceCensus.Journal.Run
import SourceCensus.Store.Follow
import SourceCensus.Text.Lines
import SourceCensus.Text.Utf8

/-! # Ignore files: all those below a root make one list of rules, deeper ones later -/

namespace SourceCensus

inductive RulesFault where
  | unreadable (fault : AccessFault)
  | undecodable (fault : Text.Utf8.Fault)
  | unusable (fault : Ignore.RuleFault)
  deriving DecidableEq, Repr

namespace Walk

def ignoreFileName : String := ".gitignore"

def reservedDirectory : String := ".git"

def passesDirectories (store : Store) (root : List String) (names : List String) : Bool :=
  (List.range names.length).all fun count =>
    store.entry? (root ++ names.take count) == some .directory

def isIgnoreFile (store : Store) (root names : List String) : Bool :=
  names.getLast? == some ignoreFileName && ! names.dropLast.contains reservedDirectory &&
    passesDirectories store root names && store.leadsSomewhere (root ++ names)

/-- Whether an ignore file comes no later than another: by depth, then by path. -/
def ignoreFileLe (a b : List String) : Bool :=
  if a.length ≠ b.length then a.length < b.length
  else decide ("/".intercalate a ≤ "/".intercalate b)

def namesBelow (store : Store) (root : List String) : List (List String) :=
  let below := (store.entries.map (·.1)).filterMap fun names =>
    if root.isPrefixOf names then some (names.drop root.length) else none
  below.eraseDups.mergeSort ignoreFileLe

def ignoreFiles (store : Store) (root : List String) : List (List String) :=
  (namesBelow store root).filter (isIgnoreFile store root)

/-- The names below a root that are looked up in full in the search for ignore files: the name of an
ignore file in each directory, whether it is there or not, and each link, to tell whether it leads to a
directory.  Directories that a walk leaves out are searched too. -/
def searchedNames (store : Store) (root : List String) : List (List String) :=
  let below := namesBelow store root
  let asked := (([] :: below).map (· ++ [ignoreFileName])) ++
    below.filter fun names => store.isLink (root ++ names)
  asked.filter (passesDirectories store root)

/-- The first of these names that is too long, or leads to a name that is. -/
def searchEnd? (store : Store) (root : List String) : Option (List String) :=
  (searchedNames store root).find? fun names =>
    store.fullStatus (root ++ names) matches .error .nameTooLong

/-- The ignore files below a root, unless a name ends the search for them. -/
def findIgnoreFiles (store : Store) (root : List String) :
    Except RulesFault (List (List String)) :=
  match searchEnd? store root with
  | some names => .error (.unreadable ⟨.nameTooLong, store.pathText (root ++ names)⟩)
  | none => .ok (ignoreFiles store root)

def ignoreLines (store : Store) (root names : List String) :
    Except RulesFault (List (List Char)) := do
  let path := root ++ names
  let content ← (store.fullRead path).mapError fun cause => .unreadable ⟨cause, store.pathText path⟩
  let text ← (Text.Utf8.decode content).mapError .undecodable
  let base := ("/".intercalate names.dropLast).toList
  return (Text.boundaryLines text).map (Ignore.rebase base)

/-- The rules of all ignore files below a root. -/
def loadRules (store : Store) (root : List String) : Run RulesFault (List Ignore.Rule) := do
  let files ← Run.ofExcept (findIgnoreFiles store root)
  let lines ← Run.ofExcept (files.mapM (ignoreLines store root))
  Run.note (.rulesLoaded files.length lines.flatten.length)
  Run.ofExcept ((Ignore.ofLines lines.flatten).mapError .unusable)

end Walk

end SourceCensus
