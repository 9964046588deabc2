import SourceCensus.Command.Switch
import SourceCensus.Text.Integer
import SourceCensus.Text.Quoted

/-! # The words of a command line -/

namespace SourceCensus.Command

inductive ArgumentFault where
  | ambiguous (word : String) (candidates : List String)
  | valueMissing (setting : Setting)
  | valueUnused (switch : Switch) (text : String)
  | unknownChoice (setting : Setting) (text : String) (choices : List String)
  | notInteger (setting : Setting) (text : String)
  | unknownTask (text : String)
  | taskMissing
  | unrecognized (words : List String)
  deriving DecidableEq, Repr

namespace ArgumentFault

def about (switch : Switch) (text : String) : String :=
  "argument " ++ switch.label ++ ": " ++ text

def choiceText (text : String) (choices : List String) : String :=
  "invalid choice: " ++ Text.quoted text ++ " (choose from " ++
    ", ".intercalate (choices.map Text.quoted) ++ ")"

def message : ArgumentFault → String
  | .ambiguous word candidates =>
    "ambiguous option: " ++ word ++ " could match " ++ ", ".intercalate candidates
  | .valueMissing setting => about (.setting setting) "expected one argument"
  | .valueUnused switch text => about switch ("ignored explicit argument " ++ Text.quoted text)
  | .unknownChoice setting text choices => about (.setting setting) (choiceText text choices)
  | .notInteger setting text => about (.setting setting) ("invalid int value: " ++ Text.quoted text)
  | .unknownTask text => "argument command: " ++ choiceText text (Task.all.map Task.name)
  | .taskMissing => "the following arguments are required: command"
  | .unrecognized words => "unrecognized arguments: " ++ " ".intercalate words

end ArgumentFault

structure Attachment where
  text : List Char
  /-- Whether the switch is a single letter, behind which more such letters may stand. -/
  short : Bool
  deriving DecidableEq, Repr

inductive Role where
  | operand
  | divider
  | switch (switch : Switch) (attachment : Option Attachment)
  | unknown
  deriving DecidableEq, Repr

def dividerWord : String := "--"

def splitAssignment (word : List Char) : List Char × Option (List Char) :=
  (word.takeWhile (· != '='),
    match word.dropWhile (· != '=') with
    | [] => none
    | _ :: text => some text)

def switchOf? (switches : List Switch) (spelling : List Char) : Option Switch :=
  switches.find? (·.spellings.contains (String.ofList spelling))

def candidates (switches : List Switch) (start : List Char) : List (Switch × String) :=
  (switches.flatMap fun switch => switch.spellings.map fun spelling => (switch, spelling)).filter
    fun (_, spelling) => start.isPrefixOf spelling.toList

def isDigit (c : Char) : Bool :=
  (Text.digitValue? c).isSome

def areDigits (s : List Char) : Bool :=
  ! s.isEmpty && s.all isDigit

/-- Whether a text is a number without an exponent: digits, or a point and digits after it. -/
def isPlainNumber (s : List Char) : Bool :=
  areDigits s ||
    match s.dropWhile (· != '.') with
    | _ :: decimals => areDigits decimals && (s.takeWhile (· != '.')).all isDigit
    | [] => false

def isNegativeNumber : List Char → Bool
  | '-' :: rest =>
    isPlainNumber rest || (rest.getLast? == some '\n' && isPlainNumber rest.dropLast)
  | _ => false

def roleOfRest (word : String) (readings : List (Switch × String))
    (attachment : Option Attachment) : Except ArgumentFault Role :=
  match readings with
  | [] =>
    .ok (if isNegativeNumber word.toList || word.toList.contains ' ' then .operand else .unknown)
  | [(switch, _)] => .ok (.switch switch attachment)
  | _ => .error (.ambiguous word (readings.map (·.2)))

def roleOf (switches : List Switch) (word : String) : Except ArgumentFault Role :=
  let (start, assigned) := splitAssignment word.toList
  match switchOf? switches start with
  | some switch => .ok (.switch switch (assigned.map fun text => ⟨text, start.length = 2⟩))
  | none =>
    match word.toList with
    | '-' :: '-' :: _ =>
      roleOfRest word (candidates switches start) (assigned.map fun text => ⟨text, false⟩)
    | '-' :: c :: text =>
      roleOfRest word
        ((switchOf? switches ['-', c]).toList.map fun switch => (switch, String.ofList ['-', c]))
        (some ⟨text, true⟩)
    | _ => .ok .operand

def roles (switches : List Switch) : List String → Except ArgumentFault (List (String × Role))
  | [] => .ok []
  | word :: rest =>
    if word = dividerWord then .ok ((word, .divider) :: rest.map fun other => (other, .operand))
    else do
      let role ← roleOf switches word
      let others ← roles switches rest
      return (word, role) :: others

end SourceCensus.Command
