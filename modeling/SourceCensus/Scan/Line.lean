import SourceCensus.Scan.Step
import SourceCensus.Text.Blank

/-! # Classifying lines -/

namespace SourceCensus.Scan

/-- The state of the scanner together with what it has seen of the line. -/
structure Progress where
  state : State
  code : Bool
  comment : Bool
  deriving DecidableEq, Repr

namespace Progress

/-- At the start of a line, a string that is still open makes it code and a comment that is still
open makes it comment. -/
def atStart (state : State) : Progress :=
  ⟨state, state.inLiteral, state.inComment⟩

def after (progress : Progress) (s : Step) : Progress :=
  ⟨s.next.getD progress.state, progress.code || s.code, progress.comment || s.comment⟩

def kind (progress : Progress) : LineKind :=
  if progress.code then .code else if progress.comment then .comment else .blank

end Progress

def scan (lexis : Lexis) : Nat → Progress → List Char → Progress
  | 0, progress, _ => progress
  | _ + 1, progress, [] => progress
  | fuel + 1, progress, c :: more =>
    match step lexis progress.state (c :: more) with
    | none => progress
    | some s =>
      if s.stop then progress.after s
      else scan lexis fuel (progress.after s) ((c :: more).drop s.advance)

/-- A number of steps within which every scan that ends has ended.  Where all markers are non-empty,
each step passes a character; an empty marker lets a step pass none, but no more than one for each
level of nesting and two for each character. -/
def stepBound (state : State) (line : List Char) : Nat :=
  let depth := match state with
    | .comment depth => depth.toNat
    | _ => 0
  3 * line.length + depth + 3

def classifyLine (lexis : Lexis) (state : State) (line : List Char) : LineKind × State :=
  if Text.isBlankText line && ! state.inComment then (.blank, state)
  else
    let progress := scan lexis (stepBound state line) (.atStart state) line
    (progress.kind, progress.state.atLineEnd)

def trace (lexis : Lexis) : State → List (List Char) → List (LineKind × State)
  | _, [] => []
  | state, line :: lines =>
    let result := classifyLine lexis state line
    result :: trace lexis result.2 lines

def isInterpreterLine : List Char → Bool
  | '#' :: '!' :: _ => true
  | _ => false

def classifyLines (lexis : Lexis) (lines : List (List Char)) : List LineKind :=
  match lines with
  | [] => []
  | first :: rest =>
    if isInterpreterLine first then .code :: (trace lexis .normal rest).map (·.1)
    else (trace lexis .normal lines).map (·.1)

@[simp] theorem trace_nil (lexis : Lexis) (state : State) : trace lexis state [] = [] := rfl

@[simp] theorem trace_cons (lexis : Lexis) (state : State) (line : List Char)
    (lines : List (List Char)) :
    trace lexis state (line :: lines) =
      classifyLine lexis state line :: trace lexis (classifyLine lexis state line).2 lines := rfl

@[simp] theorem length_trace (lexis : Lexis) (state : State) (lines : List (List Char)) :
    (trace lexis state lines).length = lines.length := by
  induction lines generalizing state with
  | nil => rfl
  | cons line lines ih => simp [ih]

@[simp] theorem length_classifyLines (lexis : Lexis) (lines : List (List Char)) :
    (classifyLines lexis lines).length = lines.length := by
  cases lines with
  | nil => rfl
  | cons first rest =>
    simp only [classifyLines]
    split <;> simp

end SourceCensus.Scan
