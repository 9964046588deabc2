import SourceCensus.Scan.Tally
import SourceCensus.Source.Reading

/-! # Line counts by language; of several files with the same content only the first counts -/

namespace SourceCensus

structure LanguageCount where
  name : String
  files : Int
  tally : Tally
  deriving DecidableEq, Repr

structure Census where
  languages : List LanguageCount
  totals : Tally
  totalFiles : Int
  uniqueFiles : Int
  duplicateFiles : Int
  binaryFiles : Int
  errors : List ScanError
  /-- How long the count took, in milliseconds. -/
  elapsed : Int := 0
  deriving DecidableEq, Repr

def sumTallies (tallies : List Tally) : Tally :=
  tallies.foldr (· + ·) 0

/-- Whether a count comes no later than another: by code lines from most to fewest, then by name. -/
def LanguageCount.le (a b : LanguageCount) : Bool :=
  if a.tally.code ≠ b.tally.code then b.tally.code < a.tally.code else a.name ≤ b.name

/-- The counts with one more file of a language; a new language comes last. -/
def addFile (name : String) (tally : Tally) : List LanguageCount → List LanguageCount
  | [] => [⟨name, 1, tally⟩]
  | count :: rest =>
    if count.name = name then ⟨name, count.files + 1, count.tally + tally⟩ :: rest
    else count :: addFile name tally rest

/-- Where a count of lines stands: what it has counted and the digests that it has met. -/
structure Counting (δ : Type) where
  languages : List LanguageCount := []
  seen : List δ := []
  unique : Int := 0
  duplicates : Int := 0
  binary : Int := 0
  errors : List ScanError := []

section Counting

variable {δ : Type} [DecidableEq δ] (digest : List UInt8 → δ)

def Counting.add (counting : Counting δ) (source : Source) : FileOutcome Reading → Counting δ
  | .failed error => { counting with errors := counting.errors ++ [error] }
  | .binary => { counting with binary := counting.binary + 1 }
  | .text reading =>
    let mark := digest reading.content
    if counting.seen.contains mark then { counting with duplicates := counting.duplicates + 1 }
    else
      { counting with
        languages := addFile source.language.name (Tally.ofKinds reading.kinds) counting.languages
        seen := mark :: counting.seen
        unique := counting.unique + 1 }

/-- The census that a count of so many files ends with. -/
def Counting.census (counting : Counting δ) (files : Nat) : Census where
  languages := counting.languages.mergeSort LanguageCount.le
  totals := sumTallies (counting.languages.map (·.tally))
  totalFiles := files
  uniqueFiles := counting.unique
  duplicateFiles := counting.duplicates
  binaryFiles := counting.binary
  errors := counting.errors

def countFile (store : Store) (counting : Counting δ) (source : Source) :
    Run PathFault (Counting δ) := do
  return counting.add digest source (← readOrSkip store source)

/-- Counts the lines of all files of a project, one file after the other. -/
def takeCensus (store : Store) (sources : List Source) : Run PathFault Census := do
  let counting ← sources.foldlM (countFile digest store) {}
  let census := counting.census sources.length
  Run.note (.counted sources.length census.uniqueFiles.toNat census.duplicateFiles.toNat
    census.binaryFiles.toNat census.errors.length)
  return census

end Counting

end SourceCensus
