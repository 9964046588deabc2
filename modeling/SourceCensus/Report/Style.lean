import SourceCensus.Report.Color
import SourceCensus.Text.Blank
import SourceCensus.Text.CellWidth

/-! # Styled text -/

namespace SourceCensus.Report

/-- What a terminal can do to a text besides colouring it. -/
inductive Attribute where
  | bold | dim | italic | underline | blink | fastBlink | reverse | conceal | strike
  | doubleUnderline | frame | encircle | overline
  deriving DecidableEq, Repr

namespace Attribute

def all : List Attribute :=
  [bold, dim, italic, underline, blink, fastBlink, reverse, conceal, strike, doubleUnderline, frame,
    encircle, overline]

def parameter : Attribute → Nat
  | bold => 1
  | dim => 2
  | italic => 3
  | underline => 4
  | blink => 5
  | fastBlink => 6
  | reverse => 7
  | conceal => 8
  | strike => 9
  | doubleUnderline => 21
  | frame => 51
  | encircle => 52
  | overline => 53

def name : Attribute → String
  | bold => "bold"
  | dim => "dim"
  | italic => "italic"
  | underline => "underline"
  | blink => "blink"
  | fastBlink => "blink2"
  | reverse => "reverse"
  | conceal => "conceal"
  | strike => "strike"
  | doubleUnderline => "underline2"
  | frame => "frame"
  | encircle => "encircle"
  | overline => "overline"

def shortName? : Attribute → Option String
  | bold => some "b"
  | dim => some "d"
  | italic => some "i"
  | underline => some "u"
  | reverse => some "r"
  | conceal => some "c"
  | strike => some "s"
  | doubleUnderline => some "uu"
  | overline => some "o"
  | _ => none

def ofName? (word : List Char) : Option Attribute :=
  all.find? fun a => a.name.toList = word || a.shortName?.any (·.toList = word)

end Attribute

/-- A terminal style.  The first setting of an attribute counts. -/
structure Style where
  settings : List (Attribute × Bool) := []
  color : Option Color := none
  ground : Option Color := none
  link : Option (List Char) := none
  deriving DecidableEq, Repr

namespace Style

def plain : Style := {}

def ofAttribute (a : Attribute) : Style where
  settings := [(a, true)]

def ofColor (name : String) : Style where
  color := (paletteNames.lookup name).map fun number => ⟨name.toList, .indexed number⟩

def setting? (s : Style) (a : Attribute) : Option Bool :=
  (s.settings.find? (·.1 = a)).map (·.2)

def overlay (below above : Style) : Style where
  settings := above.settings ++ below.settings
  color := above.color.or below.color
  ground := above.ground.or below.ground
  link := above.link.or below.link

def parameters (s : Style) : List Nat :=
  (Attribute.all.filter fun a => s.setting? a = some true).map (·.parameter) ++
    (s.color.elim [] fun c => c.shade.parameters false) ++
    (s.ground.elim [] fun c => c.shade.parameters true)

def describedWords (s : Style) : List (List Char) :=
  (Attribute.all.flatMap fun a => match s.setting? a with
    | some true => [a.name.toList]
    | some false => ["not".toList, a.name.toList]
    | none => []) ++
    (s.color.elim [] fun c => [c.name]) ++ (s.ground.elim [] fun c => ["on".toList, c.name]) ++
    (s.link.elim [] fun target => ["link".toList, target])

def description (s : Style) : List Char :=
  match s.describedWords with
  | [] => "none".toList
  | words => Text.join [' '] words

def ofWordsFrom (s : Style) : List (List Char) → Except Text.DigitFault (Option Style)
  | [] => .ok (some s)
  | word :: rest =>
    let name := Text.lower word
    if name = "on".toList then
      match rest with
      | ground :: rest => do
        match ← Color.ofWord? ground with
        | some c => ofWordsFrom { s with ground := some c } rest
        | none => return none
      | [] => .ok none
    else if name = "not".toList then
      match rest with
      | refused :: rest =>
        match Attribute.ofName? refused with
        | some a => ofWordsFrom { s with settings := (a, false) :: s.settings } rest
        | none => .ok none
      | [] => .ok none
    else if name = "link".toList then
      match rest with
      | target :: rest => ofWordsFrom { s with link := some target } rest
      | [] => .ok none
    else
      match Attribute.ofName? name with
      | some a => ofWordsFrom { s with settings := (a, true) :: s.settings } rest
      | none => do
        match ← Color.ofWord? name with
        | some c => ofWordsFrom { s with color := some c } rest
        | none => return none

def ofDescription? (s : List Char) : Except Text.DigitFault (Option Style) :=
  if Text.trim s = "none".toList then .ok (some plain) else ofWordsFrom plain (Text.words s)

end Style

structure Span where
  style : Style := .plain
  text : List Char
  deriving DecidableEq, Repr

def Span.ofText (text : List Char) : Span := ⟨.plain, text⟩

def Span.render (color : Bool) (span : Span) : String :=
  match span.style.parameters with
  | [] => String.ofList span.text
  | parameters =>
    if color && ! span.text.isEmpty then
      "\x1b[" ++ String.intercalate ";" (parameters.map toString) ++ "m" ++
        String.ofList span.text ++ "\x1b[0m"
    else String.ofList span.text

abbrev Line := List Span

def Line.ofText (text : List Char) : Line := [.ofText text]

def Line.width (line : Line) : Nat :=
  line.foldr (fun span rest => Text.cellWidth span.text + rest) 0

def Line.onStyle (style : Style) (line : Line) : Line :=
  line.map fun span => { span with style := style.overlay span.style }

def renderLines (color : Bool) (lines : List Line) : String :=
  String.join (lines.map fun line => String.join (line.map (Span.render color)) ++ "\n")

end SourceCensus.Report
