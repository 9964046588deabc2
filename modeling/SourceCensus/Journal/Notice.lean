/-! # Notices -/

namespace SourceCensus

inductive Level where
  | debug
  | info
  | warning
  deriving DecidableEq, Repr

def Level.label : Level → String
  | .debug => "DEBUG"
  | .info => "INFO"
  | .warning => "WARNING"

def Level.rank : Level → Nat
  | .debug => 0
  | .info => 1
  | .warning => 2

inductive Notice where
  | binarySkipped (path : String)
  | unreadableSkipped (path message : String)
  | normalized (files binary errors : Nat)
  | counted (files unique duplicates binary errors : Nat)
  | fingerprinted (files windows buckets : Nat)
  | collisionsDropped (count : Nat)
  | boilerplateSkipped (count : Nat) (ceiling : Int)
  | blockShrunk (size : Int) (verified : Nat)
  | blockDropped (locations verified : Nat)
  | duplicatesDetected (files confirmed groups : Nat)
  | rulesLoaded (files patterns : Nat)
  | unlistable (path message : String)
  | firstLineUnreadable (path message : String)
  | walked (root : String) (files skipped : Nat)
  | argumentsRefused (arguments : String)
  | pathMissing (path : String)
  | rulesUnreadable (message : String)
  | blockSizeRefused (size : Int)
  | jobsRefused (jobs : Int)
  | outputRefused (path message : String)
  deriving DecidableEq, Repr

namespace Notice

def level : Notice → Level
  | .binarySkipped .. | .fingerprinted .. | .collisionsDropped .. | .blockShrunk ..
  | .blockDropped .. | .rulesLoaded .. | .firstLineUnreadable .. | .walked .. => .debug
  | .normalized .. | .counted .. | .duplicatesDetected .. => .info
  | .unreadableSkipped .. | .boilerplateSkipped .. | .unlistable .. | .argumentsRefused ..
  | .pathMissing .. | .rulesUnreadable .. | .blockSizeRefused .. | .jobsRefused ..
  | .outputRefused .. => .warning

def message : Notice → String
  | .binarySkipped path => "Skipping binary file (path=" ++ path ++ ")"
  | .unreadableSkipped path message =>
    "Skipping file due to read failure (file_path=" ++ path ++ " error=" ++ message ++ ")"
  | .normalized files binary errors =>
    "Normalization completed (files=" ++ toString files ++ " binary=" ++ toString binary ++
      " errors=" ++ toString errors ++ ")"
  | .counted files unique duplicates binary errors =>
    "Line count completed (files=" ++ toString files ++ " unique=" ++ toString unique ++
      " duplicates=" ++ toString duplicates ++ " binary=" ++ toString binary ++
      " errors=" ++ toString errors ++ ")"
  | .fingerprinted files windows buckets =>
    "Fingerprint index built (files=" ++ toString files ++ " windows=" ++ toString windows ++
      " buckets=" ++ toString buckets ++ ")"
  | .collisionsDropped count => "Dropped colliding hash buckets (count=" ++ toString count ++ ")"
  | .boilerplateSkipped count ceiling =>
    "Skipped " ++ toString count ++ " patterns with more than " ++ toString ceiling ++
      " occurrences (likely boilerplate)"
  | .blockShrunk size verified =>
    "Extended block shrunk on verification (block_size=" ++ toString size ++
      " verified=" ++ toString verified ++ ")"
  | .blockDropped locations verified =>
    "Dropped block failing verification (locations=" ++ toString locations ++
      " verified=" ++ toString verified ++ ")"
  | .duplicatesDetected files confirmed groups =>
    "Duplicate detection completed (files=" ++ toString files ++
      " confirmed=" ++ toString confirmed ++ " groups=" ++ toString groups ++ ")"
  | .rulesLoaded files patterns =>
    "Loaded ignore rules (files=" ++ toString files ++ " patterns=" ++ toString patterns ++ ")"
  | .unlistable path message =>
    "Cannot list directory (path=" ++ path ++ " error=" ++ message ++ ")"
  | .firstLineUnreadable path message =>
    "Cannot read first line (path=" ++ path ++ " error=" ++ message ++ ")"
  | .walked root files skipped =>
    "Walk completed (root=" ++ root ++ " files=" ++ toString files ++
      " skipped=" ++ toString skipped ++ ")"
  | .argumentsRefused arguments => "Argument parsing failed (argv=" ++ arguments ++ ")"
  | .pathMissing path => "Path does not exist (path=" ++ path ++ ")"
  | .rulesUnreadable message => "Failed to read .gitignore files (error=" ++ message ++ ")"
  | .blockSizeRefused size => "Invalid minimum block size (min_lines=" ++ toString size ++ ")"
  | .jobsRefused jobs => "Invalid worker count (jobs=" ++ toString jobs ++ ")"
  | .outputRefused path message =>
    "Failed to write JSON output file (output_path=" ++ path ++ " error=" ++ message ++ ")"

end Notice

end SourceCensus
