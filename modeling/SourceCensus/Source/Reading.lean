import SourceCensus.Journal.Run
import SourceCensus.Language.Detect
import SourceCensus.Scan.Line
import SourceCensus.Store.Follow
import SourceCensus.Text.Lines
import SourceCensus.Text.Utf8

/-! # Reading source files -/

namespace SourceCensus

/-- The number of leading bytes that are looked at to tell binary data from text. -/
def probeSize : Nat := 512

/-- Data is binary when a zero byte stands among its leading bytes. -/
def isBinary (bytes : List UInt8) : Bool :=
  (bytes.take probeSize).contains 0

/-- A source file: where it stands in the store, the path that reports name it by, and its
language. -/
structure Source where
  names : List String
  path : String
  language : Language
  deriving DecidableEq, Repr

/-- A source file that was read: its content, its lines and their kinds. -/
structure Reading where
  content : List UInt8
  lines : List (List Char)
  kinds : List Scan.LineKind
  deriving DecidableEq, Repr

/-- Why a source file cannot be read. -/
inductive ReadFault where
  | unreadable (path : String) (cause : Cause)
  | undecodable (path : String) (fault : Text.Utf8.Fault)
  | invalidPath (fault : PathFault)
  deriving DecidableEq, Repr

def ReadFault.message : ReadFault → String
  | .unreadable path cause =>
    "Failed to read " ++ path ++ ": " ++ AccessFault.message ⟨cause, path⟩
  | .undecodable path fault => "Failed to decode " ++ path ++ ": " ++ fault.message
  | .invalidPath fault => fault.message

def Reading.ofText (lexis : Lexis) (content : List UInt8) (text : List Char) : Reading :=
  let lines := Text.sourceLines text
  ⟨content, lines, Scan.classifyLines lexis lines⟩

def Reading.ofContent? (lexis : Lexis) (path : String) (content : List UInt8) :
    Except ReadFault (Option Reading) :=
  if isBinary content then .ok none
  else
    match Text.Utf8.decode content with
    | .ok text => .ok (some (.ofText lexis content text))
    | .error fault => .error (.undecodable path fault)

def contentOf (store : Store) (names : List String) : Except ReadFault (List UInt8) :=
  if names.any Path.holdsNull then .error (.invalidPath .nullInPath)
  else (store.fullRead names).mapError (.unreadable (store.pathText names))

/-- Reads a source file.  A binary file gives a notice and no reading. -/
def readSource (store : Store) (lexis : Lexis) (names : List String) :
    Run ReadFault (Option Reading) := do
  let path := store.pathText names
  let content ← Run.ofExcept (contentOf store names)
  Run.noteIf (isBinary content) (.binarySkipped path)
  Run.ofExcept (Reading.ofContent? lexis path content)

/-- A source file that was left out, with the reason. -/
structure ScanError where
  path : String
  message : String
  deriving DecidableEq, Repr

/-- What became of one source file. -/
inductive FileOutcome (α : Type) where
  | text (result : α)
  | binary
  | failed (error : ScanError)
  deriving DecidableEq, Repr

/-- Reads a source file and goes on where it cannot be read, with a notice. -/
def readOrSkip (store : Store) (source : Source) : Run PathFault (FileOutcome Reading) :=
  let reading := readSource store source.language.lexis source.names
  match reading.outcome with
  | .ok (some result) => ⟨reading.notices, .ok (.text result)⟩
  | .ok none => ⟨reading.notices, .ok .binary⟩
  | .error (.invalidPath fault) => ⟨reading.notices, .error fault⟩
  | .error fault =>
    ⟨reading.notices ++ [.unreadableSkipped source.path fault.message],
      .ok (.failed ⟨source.path, fault.message⟩)⟩

/-- The language that the first line of a file stands for.  Faulty bytes are read as U+FFFD, and a
file that cannot be read stands for none. -/
def interpreterLanguage? (store : Store) (names : List String) : Option Language :=
  match store.fullRead names with
  | .ok content => Language.ofInterpreterLine? (Text.firstLine (Text.Utf8.decodeLossy content))
  | .error _ => none

def tellInterpreterLanguage? (store : Store) (names : List String) :
    Run PathFault (Option Language) :=
  let path := store.pathText names
  if names.any Path.holdsNull then Run.fault .nullInPath
  else
    match store.fullRead names with
    | .ok _ => ⟨[], .ok (interpreterLanguage? store names)⟩
    | .error cause =>
      ⟨[.firstLineUnreadable path (AccessFault.message ⟨cause, path⟩)], .ok none⟩

/-- The language of a file: by its name, else by its first line. -/
def languageOf? (store : Store) (names : List String) : Option Language :=
  (Language.ofFileName? (names.getLast?.getD "")).or (interpreterLanguage? store names)

end SourceCensus
