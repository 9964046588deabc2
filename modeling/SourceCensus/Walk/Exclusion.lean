import SourceCensus.Ignore.Rules
import SourceCensus.Text.LowerCase

/-! # Excluding files -/

namespace SourceCensus

/-- What to exclude. -/
structure Exclusion where
  only : List String := []
  extensions : List String := []
  directories : List String := []
  globs : List String := []
  rules : List Ignore.Rule := []
  deriving DecidableEq, Repr

namespace Exclusion

def plainExtension (extension : String) : String :=
  String.ofList (Text.lower (extension.toList.dropWhile (· == '.')))

def plainExtensions (extensions : List String) : List String :=
  ((extensions.map plainExtension).filter (· != "")).eraseDups.mergeSort fun a b => decide (a ≤ b)

/-- The exclusion that is given by extensions, names of directories and globs. -/
def ofLists (only extensions directories globs : List String) :
    Except Ignore.RuleFault Exclusion := do
  return {
    only := plainExtensions only
    extensions := plainExtensions extensions
    directories := directories.eraseDups.mergeSort fun a b => decide (a ≤ b)
    globs
    rules := ← Ignore.ofLines (globs.map String.toList) }

def excludesDirectory (exclusion : Exclusion) (name : String) : Bool :=
  exclusion.directories.contains name

/-- The lower-case extension of a path: what follows the last dot of its last component. -/
def pathExtension (path : String) : String :=
  match Text.splitLast? '.' (Text.afterLast '/' path.toList) with
  | some (_, extension) => String.ofList (Text.lower extension)
  | none => ""

def excludesExtension (exclusion : Exclusion) (path : String) : Bool :=
  let extension := pathExtension path
  if exclusion.only.isEmpty then extension != "" && exclusion.extensions.contains extension
  else ! exclusion.only.contains extension

def excludesFile (exclusion : Exclusion) (path : String) : Bool :=
  exclusion.excludesExtension path || Ignore.ignores exclusion.rules path.toList

end Exclusion

end SourceCensus
