import SourceCensus.Command.Word

/-! # Reading a command line -/

namespace SourceCensus.Command

inductive Format where
  | table
  | json
  deriving DecidableEq, Repr

namespace Format

def all : List Format := [.table, .json]

def name : Format → String
  | .table => "table"
  | .json => "json"

def ofName? (name : String) : Option Format :=
  all.find? (·.name == name)

end Format

/-- The options of the tasks.  An option that a task does not know keeps its default. -/
structure Options where
  path : String := "."
  format : Format := .table
  includeTests : Bool := false
  includeExtensions : List String := []
  excludeExtensions : List String := []
  excludeDirectories : List String := []
  excludeGlobs : List String := []
  verbose : Bool := false
  minLines : Int := 6
  report : Bool := false
  showAll : Bool := false
  quiet : Bool := false
  jobs : Int := 1
  output : Option String := none
  /-- The settings that were given without a value and cannot do without one. -/
  withheld : List Setting := []
  deriving DecidableEq, Repr

namespace Options

def raise (options : Options) : Flag → Options
  | .includeTests => { options with includeTests := true }
  | .verbose => { options with verbose := true }
  | .report => { options with report := true }
  | .showAll => { options with showAll := true }
  | .quiet => { options with quiet := true }

def integerOf (setting : Setting) (text : String) : Except ArgumentFault Int :=
  match Text.integer? text.toList with
  | some n => .ok n
  | none => .error (.notInteger setting text)

def formatOf (setting : Setting) (text : String) : Except ArgumentFault Format :=
  match Format.ofName? text with
  | some format => .ok format
  | none => .error (.unknownChoice setting text (Format.all.map Format.name))

/-- The options with a value kept from a setting.  A format and an output path can do without one,
and so can a glob, which is then empty. -/
def withhold (options : Options) : Setting → Options
  | .format => { options with format := .table }
  | .output => { options with output := none }
  | .exclude => { options with excludeGlobs := options.excludeGlobs ++ [""] }
  | setting => { options with withheld := setting :: options.withheld }

/-- The options with a value supplied for a setting that may have been withheld. -/
def supply (options : Options) (setting : Setting) : Options :=
  { options with withheld := options.withheld.filter (· != setting) }

/-- The options with a value accepted.  Of several values the last counts, where the option is no
list. -/
def accept (options : Options) (setting : Setting) (text : String) : Except ArgumentFault Options :=
  match setting with
  | .path => .ok { options.supply .path with path := text }
  | .format => (formatOf setting text).map fun format => { options with format }
  | .includeExtension =>
    .ok { options with includeExtensions := options.includeExtensions ++ [text] }
  | .excludeExtension =>
    .ok { options with excludeExtensions := options.excludeExtensions ++ [text] }
  | .excludeDirectory =>
    .ok { options with excludeDirectories := options.excludeDirectories ++ [text] }
  | .exclude => .ok { options with excludeGlobs := options.excludeGlobs ++ [text] }
  | .minLines =>
    (integerOf setting text).map fun minLines => { options.supply .minLines with minLines }
  | .jobs => (integerOf setting text).map fun jobs => { options.supply .jobs with jobs }
  | .output => .ok { options with output := some text }

/-- The options with a value given.  The divider is no value. -/
def assign (options : Options) (setting : Setting) (text : String) : Except ArgumentFault Options :=
  if text = dividerWord then .ok (options.withhold setting) else options.accept setting text

end Options

/-- Why a command line is not carried out. -/
inductive Refusal where
  | help
  | fault (fault : ArgumentFault)
  deriving DecidableEq, Repr

/-- The part of a text attached to the short help switch that cannot be used.  The switch may be
repeated. -/
def unusablePart? : List Char → Option (List Char)
  | ['h'] => none
  | 'h' :: rest => unusablePart? rest
  | text => some text

def helpRefusal (attachment : Option Attachment) : Refusal :=
  let unusable? := attachment.bind fun attachment =>
    if attachment.short then unusablePart? attachment.text else some attachment.text
  match unusable? with
  | some text => .fault (.valueUnused .help (String.ofList text))
  | none => .help

def readOptions (options : Options) : List (String × Role) → Except Refusal (Options × List String)
  | [] => .ok (options, [])
  | (_, .switch .help attachment) :: _ => .error (helpRefusal attachment)
  | (_, .switch (.flag flag) none) :: rest => readOptions (options.raise flag) rest
  | (_, .switch (.flag flag) (some attachment)) :: _ =>
    .error (.fault (.valueUnused (.flag flag) (String.ofList attachment.text)))
  | (_, .switch (.setting setting) (some attachment)) :: rest => do
    let changed ← (options.assign setting (String.ofList attachment.text)).mapError .fault
    readOptions changed rest
  | (_, .switch (.setting setting) none) :: (value, .operand) :: rest => do
    let changed ← (options.assign setting value).mapError .fault
    readOptions changed rest
  | (_, .switch (.setting setting) none) :: _ => .error (.fault (.valueMissing setting))
  | (word, _) :: rest => do
    let (changed, extras) ← readOptions options rest
    return (changed, word :: extras)

def findTask : List (String × Role) → Except Refusal (Task × List String × List String)
  | [] => .error (.fault .taskMissing)
  | (_, .switch _ attachment) :: _ => .error (helpRefusal attachment)
  | (word, .operand) :: rest =>
    match Task.ofName? word with
    | some task => .ok (task, [], rest.map (·.1))
    | none => .error (.fault (.unknownTask word))
  | (word, .divider) :: rest =>
    .error (.fault (if rest.isEmpty then .taskMissing else .unknownTask word))
  | (word, .unknown) :: rest => do
    let (task, before, after) ← findTask rest
    return (task, word :: before, after)

/-- A task with its options. -/
structure Request where
  task : Task
  options : Options
  deriving DecidableEq, Repr

/-- The part of the program that refuses a command line: the program itself, or one of its tasks. -/
abbrev Speaker := Option Task

def speakerName : Speaker → String
  | none => "cm"
  | some task => "cm " ++ task.name

structure Refused where
  speaker : Speaker
  refusal : Refusal
  deriving DecidableEq, Repr

def Refused.message? (refused : Refused) : Option String :=
  match refused.refusal with
  | .help => none
  | .fault fault => some (speakerName refused.speaker ++ ": error: " ++ fault.message)

def readTask (task : Task) (words : List String) : Except Refusal (Options × List String) := do
  let judged ← (roles task.switches words).mapError .fault
  readOptions {} judged

def readRequest (arguments : List String) : Except Refused Request := do
  let judged ← (roles [.help] arguments).mapError fun fault => ⟨none, .fault fault⟩
  let (task, before, after) ← (findTask judged).mapError fun refusal => ⟨none, refusal⟩
  let (options, extras) ← (readTask task after).mapError fun refusal => ⟨some task, refusal⟩
  match before ++ extras with
  | [] => return ⟨task, options⟩
  | words => throw ⟨none, .fault (.unrecognized words)⟩

end SourceCensus.Command
