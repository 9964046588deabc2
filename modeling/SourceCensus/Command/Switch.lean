/-! # Tasks and their switches -/

namespace SourceCensus.Command

inductive Task where
  | count
  | duplicates
  deriving DecidableEq, Repr

inductive Flag where
  | includeTests
  | verbose
  | report
  | showAll
  | quiet
  deriving DecidableEq, Repr

inductive Setting where
  | path
  | format
  | includeExtension
  | excludeExtension
  | excludeDirectory
  | exclude
  | minLines
  | jobs
  | output
  deriving DecidableEq, Repr

inductive Switch where
  | help
  | flag (flag : Flag)
  | setting (setting : Setting)
  deriving DecidableEq, Repr

def Flag.spelling : Flag → String
  | .includeTests => "--include-tests"
  | .verbose => "--verbose"
  | .report => "--report"
  | .showAll => "--show-all"
  | .quiet => "--quiet"

def Setting.spelling : Setting → String
  | .path => "--path"
  | .format => "--format"
  | .includeExtension => "--include-ext"
  | .excludeExtension => "--exclude-ext"
  | .excludeDirectory => "--exclude-dir"
  | .exclude => "--exclude"
  | .minLines => "--min-lines"
  | .jobs => "--jobs"
  | .output => "--output"

namespace Switch

def spellings : Switch → List String
  | .help => ["-h", "--help"]
  | .flag f => [f.spelling]
  | .setting s => [s.spelling]

def label (switch : Switch) : String :=
  "/".intercalate switch.spellings

def common : List Switch :=
  [.help, .setting .path, .setting .format, .flag .includeTests, .setting .includeExtension,
    .setting .excludeExtension, .setting .excludeDirectory, .setting .exclude]

end Switch

namespace Task

def all : List Task := [.count, .duplicates]

def name : Task → String
  | .count => "loc"
  | .duplicates => "dups"

def ofName? (name : String) : Option Task :=
  all.find? (·.name == name)

/-- The switches that a task knows, in the order in which messages list them. -/
def switches : Task → List Switch
  | .count => Switch.common ++ [.flag .verbose]
  | .duplicates =>
    Switch.common ++ [.setting .minLines, .flag .report, .flag .showAll, .flag .quiet,
      .setting .jobs, .setting .output]

end Task

end SourceCensus.Command
