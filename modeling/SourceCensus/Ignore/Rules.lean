import SourceCensus.Ignore.Pattern
import SourceCensus.Text.Blank
import SourceCensus.Text.Quoted

/-! # Ignore rules -/

namespace SourceCensus.Ignore

/-- A rule: a pattern, and whether what it matches is to be kept rather than ignored. -/
structure Rule where
  negated : Bool
  pattern : Pattern
  deriving DecidableEq, Repr

/-- Why a list of lines makes no rules. -/
inductive RuleFault where
  | invalidLine (line : List Char)
  | reversedRange
  deriving DecidableEq, Repr

def RuleFault.message? : RuleFault → Option String
  | .invalidLine line => some ("Invalid git pattern: " ++ Text.quoted (String.ofList line))
  | .reversedRange => none

/-- A line without trailing blanks, unless a backslash keeps the last of them. -/
def trimLine (line : List Char) : List Char :=
  if ['\\', ' '].isSuffixOf line then line else Text.trimEnd line

def Rule.ofLine? (line : List Char) : Except RuleFault (Option Rule) :=
  let text := trimLine line
  if text.isEmpty || text.head? = some '#' || text = ['/'] then .ok none
  else
    let (negated, body) := match text with
      | '!' :: rest => (true, rest)
      | rest => (false, rest)
    match Pattern.ofText body with
    | .ok pattern => .ok (some ⟨negated, pattern⟩)
    | .error .unclosed => .ok none
    | .error .invalid => .error (.invalidLine line)
    | .error .reversedRange => .error .reversedRange

def ofLines (lines : List (List Char)) : Except RuleFault (List Rule) := do
  let rules ← lines.mapM Rule.ofLine?
  return rules.filterMap id

def relativePath : List Char → List Char
  | '/' :: rest => rest
  | '.' :: '/' :: rest => rest
  | rest => rest

/-- The rules that match a path, the last first, each with whether a directory mark took part. -/
def matching (rules : List Rule) (path : List Char) : List (Rule × Bool) :=
  rules.reverse.filterMap fun rule =>
    (rule.pattern.matchPath (relativePath path)).map fun marked => (rule, marked)

/-- The rule that decides on a path: the last that names the path itself, else the last that names a
directory around it. -/
def deciding? (rules : List Rule) (path : List Char) : Option Rule :=
  let found := matching rules path
  ((found.find? (! ·.2)).or found.head?).map (·.1)

/-- Whether the rules ignore a path; a directory ends with a slash. -/
def ignores (rules : List Rule) (path : List Char) : Bool :=
  match deciding? rules path with
  | some rule => ! rule.negated
  | none => false

def dropSlashes (s : List Char) : List Char :=
  (s.reverse.dropWhile (· == '/')).reverse

/-- Whether the rules ignore an entry, given by its path below the root. -/
def ignoresEntry (rules : List Rule) (path : List Char) (isDirectory : Bool) : Bool :=
  let path := dropSlashes (path.dropWhile (· == '/'))
  ! path.isEmpty && ignores rules (if isDirectory then path ++ ['/'] else path)

def isIdle (line : List Char) : Bool :=
  Text.isBlankText line || (Text.trimStart line).head? == some '#'

/-- A pattern moved from the directory `base` to the root.  One without an inner slash may match at
any depth below `base`. -/
def rebasePattern (base pattern : List Char) : List Char :=
  if pattern.head? = some '/' then '/' :: base ++ pattern
  else if (dropSlashes pattern).contains '/' then '/' :: base ++ '/' :: pattern
  else '/' :: base ++ ['/', '*', '*', '/'] ++ pattern

/-- A line of the ignore file in the directory `base`, written for the root. -/
def rebase (base line : List Char) : List Char :=
  if base.isEmpty || isIdle line then line
  else
    match line with
    | '!' :: pattern => '!' :: rebasePattern base pattern
    | pattern => rebasePattern base pattern

@[simp] theorem rebase_nil (line : List Char) : rebase [] line = line := by
  simp [rebase]

end SourceCensus.Ignore
