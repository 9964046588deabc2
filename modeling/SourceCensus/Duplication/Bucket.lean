import SourceCensus.Duplication.Location
import SourceCensus.Sequence.Assoc

/-! # Judging buckets -/

namespace SourceCensus.Duplication

/-- What a bucket of locations turns out to be. -/
inductive Verdict where
  | single
  | boilerplate
  | collision
  | confirmed
  deriving DecidableEq, Repr

/-- Whether all of the locations carry the text `reference`.  The first that does not ends the
search. -/
def allCarry (files : List CodeFile) (size : Int) (reference : List (List Char)) :
    List Location → Except Fault Bool
  | [] => .ok true
  | a :: rest => do
    if (← textsAt files size a) = reference then allCarry files size reference rest
    else return false

def judge (files : List CodeFile) (size ceiling : Int) (s : LocationSet) : Except Fault Verdict :=
  match s with
  | [] | [_] => .ok .single
  | first :: others =>
    if ceiling < s.length then .ok .boilerplate
    else do
      let reference ← textsAt files size first
      return if ← allCarry files size reference others then .confirmed else .collision

/-- The outcome of judging all buckets of an index whose keys are of type `κ`. -/
structure Validation (κ : Type) where
  confirmed : List (LocationSet × κ)
  boilerplate : Nat
  collisions : Nat
  deriving DecidableEq, Repr

def Validation.ordered {κ : Type} (v : Validation κ) : List LocationSet :=
  LocationSet.sorted (v.confirmed.map (·.1))

structure Judged (κ : Type) where
  locations : LocationSet
  key : κ
  verdict : Verdict
  deriving DecidableEq, Repr

def judgeBucket {κ : Type} (files : List CodeFile) (size ceiling : Int)
    (entry : κ × List Location) : Except Fault (Judged κ) := do
  let locations := LocationSet.ofList entry.2
  return ⟨locations, entry.1, ← judge files size ceiling locations⟩

def Validation.ofJudged {κ : Type} (judged : List (Judged κ)) : Validation κ :=
  let confirmed := judged.filter (·.verdict == .confirmed)
  { confirmed := Sequence.ofWrites (confirmed.map fun j => (j.locations, j.key))
    boilerplate := judged.countP (·.verdict == .boilerplate)
    collisions := judged.countP (·.verdict == .collision) }

/-- Judges all buckets of an index. -/
def validate {κ : Type} (files : List CodeFile) (size ceiling : Int)
    (index : List (κ × List Location)) : Except Fault (Validation κ) :=
  Validation.ofJudged <$> index.mapM (judgeBucket files size ceiling)

end SourceCensus.Duplication
