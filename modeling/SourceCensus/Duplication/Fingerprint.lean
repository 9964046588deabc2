import SourceCensus.Digest.Fnv
import SourceCensus.Duplication.Location

/-! # Fingerprints -/

namespace SourceCensus.Duplication

structure Window where
  hash : UInt64
  location : Location
  deriving DecidableEq, Repr

def windowCount (size : Int) (count : Nat) : Nat :=
  if (count : Int) < size then 0 else (count - size + 1).toNat

def fileWindows (size : Int) (file : CodeFile) (index : Nat) : List Window :=
  let hashes := file.lines.map fun line => Digest.hashLine line.text
  (List.range (windowCount size file.lines.length)).map fun (offset : Nat) =>
    ⟨Digest.combine (Sequence.slice hashes offset (offset + size)), ⟨index, offset⟩⟩

def windows (size : Int) (files : List CodeFile) : List Window :=
  files.zipIdx.flatMap fun (file, index) => fileWindows size file index

def bucket (all : List Window) (hash : UInt64) : List Location :=
  (all.filter (·.hash == hash)).map (·.location)

/-- Windows sorted into buckets. -/
def buckets (all : List Window) : List (UInt64 × List Location) :=
  (all.map (·.hash)).eraseDups.map fun hash => (hash, bucket all hash)

def fingerprints (size : Int) (files : List CodeFile) : List (UInt64 × List Location) :=
  buckets (windows size files)

end SourceCensus.Duplication
