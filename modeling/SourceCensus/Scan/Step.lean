import SourceCensus.Language.Lexis
import SourceCensus.Scan.State
import SourceCensus.Text.Search

/-! # One step of the scanner -/

namespace SourceCensus.Scan

/-- What the scanner does at one position. -/
structure Step where
  advance : Nat
  next : Option State := none
  code : Bool := false
  comment : Bool := false
  /-- Whether the rest of the line is left unread. -/
  stop : Bool := false
  deriving DecidableEq, Repr

namespace Step

def ofCode (advance : Nat) (next : Option State) : Step :=
  ⟨advance, next, true, false, false⟩

def ofComment (advance : Nat) (next : Option State) : Step :=
  ⟨advance, next, false, true, false⟩

def restIsComment : Step :=
  ⟨0, none, false, true, true⟩

end Step

def isAsciiBlank (c : Char) : Bool :=
  c == ' ' || c == '\t' || c == '\n' || c == '\r' || c == '\x0b' || c == '\x0c'

/-- Three quotes open a string that may span lines. -/
def openTriple (lexis : Lexis) (rest : List Char) : Option Step :=
  if ! lexis.tripleQuotes then none
  else if Quote.double.tripled.isPrefixOf rest then
    some (.ofCode 3 (some (.literal (.triple .double))))
  else if lexis.singleQuotes && Quote.single.tripled.isPrefixOf rest then
    some (.ofCode 3 (some (.literal (.triple .single))))
  else none

/-- The number of characters from the opener of a fence through its closer on the line, or to the
end of the line without a closer. -/
def Fence.span (fence : Fence) (rest : List Char) : Nat :=
  match Text.find? fence.closer (rest.drop fence.opener.length) with
  | some offset => fence.opener.length + offset + fence.closer.length
  | none => rest.length

def passDirective (lexis : Lexis) (rest : List Char) : Option Step :=
  match lexis.directive with
  | some fence =>
    if fence.opener.isPrefixOf rest then some (.ofCode (Fence.span fence rest) none) else none
  | none => none

def openBlock (lexis : Lexis) (rest : List Char) : Option Step :=
  match lexis.block with
  | some fence =>
    if fence.opener.isPrefixOf rest then
      some (.ofComment fence.opener.length (some (.comment 1)))
    else none
  | none => none

/-- Whether `marker` starts a comment here: it does unless an operator character follows it. -/
def marksComment (lexis : Lexis) (rest marker : List Char) : Bool :=
  marker.isPrefixOf rest &&
    match rest.drop marker.length with
    | c :: _ => ! lexis.operatorTails.contains c
    | [] => true

def lineComment (lexis : Lexis) (rest : List Char) : Option Step :=
  if lexis.lineMarkers.any (marksComment lexis rest) then some .restIsComment else none

def openPlain (lexis : Lexis) (rest : List Char) : Option Step :=
  match rest with
  | c :: _ =>
    if c = Quote.double.mark then some (.ofCode 1 (some (.literal (.plain .double))))
    else if c = Quote.single.mark && lexis.singleQuotes then
      some (.ofCode 1 (some (.literal (.plain .single))))
    else none
  | [] => none

def passCharacter (rest : List Char) : Option Step :=
  match rest with
  | c :: _ => some ⟨1, none, ! isAsciiBlank c, false, false⟩
  | [] => none

/-- The step outside of strings and comments: the first opening that applies. -/
def stepNormal (lexis : Lexis) (rest : List Char) : Option Step :=
  openTriple lexis rest <|> passDirective lexis rest <|> openBlock lexis rest <|>
    lineComment lexis rest <|> openPlain lexis rest <|> passCharacter rest

/-- The step inside a string.  A backslash takes the next character of a plain string along; in a
triple-quoted string it is a character like any other. -/
def stepLiteral (delimiter : Literal) (rest : List Char) : Option Step :=
  match delimiter with
  | .triple quote =>
    if quote.tripled.isPrefixOf rest then some (.ofCode 3 (some .normal)) else some (.ofCode 1 none)
  | .plain quote =>
    match rest with
    | [] => none
    | c :: more =>
      if c = '\\' then some (.ofCode (1 + min 1 more.length) none)
      else if c = quote.mark then some (.ofCode 1 (some .normal))
      else some (.ofCode 1 none)

/-- The state after the closer of a block comment at the given depth. -/
def afterCloser (depth : Int) : State :=
  if depth ≤ 1 then .normal else .comment (depth - 1)

def stepComment (lexis : Lexis) (depth : Int) (rest : List Char) : Step :=
  match lexis.block with
  | none => .ofComment 1 none
  | some fence =>
    if lexis.nests && fence.opener.isPrefixOf rest then
      .ofComment fence.opener.length (some (.comment (depth + 1)))
    else if fence.closer.isPrefixOf rest then
      .ofComment fence.closer.length (some (afterCloser depth))
    else .ofComment 1 none

def step (lexis : Lexis) (state : State) (rest : List Char) : Option Step :=
  match state with
  | .normal => stepNormal lexis rest
  | .literal delimiter => stepLiteral delimiter rest
  | .comment depth => some (stepComment lexis depth rest)

theorem passCharacter_cons (c : Char) (rest : List Char) :
    passCharacter (c :: rest) = some ⟨1, none, ! isAsciiBlank c, false, false⟩ := rfl

theorem step_isSome (lexis : Lexis) (state : State) (c : Char) (rest : List Char) :
    (step lexis state (c :: rest)).isSome := by
  cases state with
  | normal =>
    simp only [step, stepNormal]
    cases openTriple lexis (c :: rest) <;> cases passDirective lexis (c :: rest) <;>
      cases openBlock lexis (c :: rest) <;> cases lineComment lexis (c :: rest) <;>
      cases openPlain lexis (c :: rest) <;> simp [passCharacter_cons]
  | literal delimiter =>
    cases delimiter with
    | plain quote =>
      simp only [step, stepLiteral]
      split
      · rfl
      · split <;> rfl
    | triple quote =>
      simp only [step, stepLiteral]
      split <;> rfl
  | comment depth => rfl

end SourceCensus.Scan
