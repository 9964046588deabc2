import SourceCensus.Duplication.Bucket
import SourceCensus.Duplication.Chain
import SourceCensus.Duplication.Fingerprint
import SourceCensus.Duplication.Group
import SourceCensus.Journal.Run

/-! # Detection of duplicates -/

namespace SourceCensus.Duplication

/-- What a search looks for. -/
structure Settings where
  minLines : Int := 6
  /-- The number of occurrences above which a window is boilerplate. -/
  maxOccurrences : Int := 100
  quiet : Bool := false
  deriving DecidableEq, Repr

def Settings.check (settings : Settings) : Except Fault Unit :=
  if settings.minLines < 1 then .error .blockSizeTooSmall
  else if settings.maxOccurrences < 2 then .error .ceilingTooLow
  else .ok ()

def Fault.message : Fault → String
  | .blockSizeTooSmall => "min_lines must be >= 1"
  | .ceilingTooLow => "max_occurrences must be >= 2"
  | .noFile => "list index out of range"
  | .noItem => "tuple index out of range"
  | .unranked label => Text.quoted label

/-- The index of all windows, with a notice about its size. -/
def index (size : Int) (files : List CodeFile) : Run Fault (List (UInt64 × List Location)) := do
  let all := windows size files
  let result := buckets all
  Run.note (.fingerprinted files.length all.length result.length)
  return result

/-- The verdicts on an index, with notices about what was left out. -/
def confirm {κ : Type} (settings : Settings) (files : List CodeFile)
    (entries : List (κ × List Location)) : Run Fault (Validation κ) := do
  let v ← Run.ofExcept (validate files settings.minLines settings.maxOccurrences entries)
  Run.noteIf (0 < v.collisions) (.collisionsDropped v.collisions)
  Run.noteIf (0 < v.boilerplate && ! settings.quiet)
    (.boilerplateSkipped v.boilerplate settings.maxOccurrences)
  return v

/-- The length to which a block is the same at all of its locations, with a notice if that is less
than its size. -/
def verify (files : List CodeFile) (size : Int) (s : LocationSet) : Run Fault Nat := do
  let verified ← Run.ofExcept (verifiedSize files size s)
  Run.noteIf (verified < size) (.blockShrunk size verified)
  return verified

/-- The group of the block around a confirmed set, if the block holds `minLines` lines that are the
same at all locations. -/
def blockGroup? (files : List CodeFile) (minLines : Int) (confirmed : List LocationSet)
    (s : LocationSet) : Run Fault (Option Group) := do
  let start := chainStart confirmed s
  let size := minLines + (backward confirmed s).length + (forward confirmed s).length
  let verified ← verify files size start
  if verified < minLines then
    Run.note (.blockDropped start.length verified)
    return none
  else
    some <$> Run.ofExcept (groupAt files verified start)

/-- The groups of the blocks around the given sets.  A set that belongs to a block found before is
passed over; `consumed` are the sets of all those blocks. -/
def collect (files : List CodeFile) (minLines : Int) (confirmed : List LocationSet) :
    List LocationSet → List LocationSet → Run Fault (List Group)
  | _, [] => pure []
  | consumed, s :: rest =>
    if consumed.contains s then collect files minLines confirmed consumed rest
    else do
      let group? ← blockGroup? files minLines confirmed s
      let visited := s :: (backward confirmed s ++ forward confirmed s)
      let groups ← collect files minLines confirmed (visited ++ consumed) rest
      return group?.toList ++ groups

/-- The sorted groups of the blocks made of confirmed sets, which are taken in the order `ordered`. -/
def detectFrom (files : List CodeFile) (minLines : Int) (confirmed ordered : List LocationSet) :
    Run Fault (List Group) := do
  let groups ← collect files minLines confirmed [] ordered
  Run.note (.duplicatesDetected files.length ordered.length groups.length)
  Run.ofExcept (sortGroups groups)

/-- The groups of duplicates in a project. -/
def detect (settings : Settings) (files : List CodeFile) : Run Fault (List Group) := do
  Run.ofExcept settings.check
  let entries ← index settings.minLines files
  let v ← confirm settings files entries
  detectFrom files settings.minLines (v.confirmed.map (·.1)) v.ordered

/-- As `detect`, with confirmed sets and their order given instead of found. -/
def detectGiven (settings : Settings) (files : List CodeFile)
    (confirmed ordered : List LocationSet) : Run Fault (List Group) := do
  Run.ofExcept settings.check
  let _ ← index settings.minLines files
  detectFrom files settings.minLines confirmed ordered

end SourceCensus.Duplication
