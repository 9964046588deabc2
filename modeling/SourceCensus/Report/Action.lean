import SourceCensus.Literal.Reader

/-! # Actions -/

namespace SourceCensus.Report

/-- Why the argument of an action cannot be read. -/
inductive ActionFault where
  | form (literal argument : List Char) (cause : Literal.FormFault)
  | value (argument : List Char) (cause : Literal.ValueFault)
  deriving DecidableEq, Repr

def quotedChars (s : List Char) : String :=
  Text.quoted (String.ofList s)

def ActionFault.message : ActionFault → String
  | .form literal argument cause =>
    "error parsing " ++ quotedChars literal ++ " in " ++ quotedChars argument ++ "; " ++
      cause.message
  | .value argument cause => "error parsing " ++ quotedChars argument ++ "; " ++ cause.message

def isActionName (c : Char) : Bool :=
  c.isAlphanum || c = '_' || c = '.' || Text.isWordSymbol c

/-- The literal in an argument: what stands behind a name, where that is nothing or in brackets on
one line, and the whole argument otherwise. -/
def actionLiteral (argument : List Char) : List Char :=
  let trimmed := Text.trim argument
  match trimmed.dropWhile isActionName with
  | [] => ['(', ')']
  | '(' :: rest =>
    if rest.getLast? = some ')' && ! rest.contains '\n' then '(' :: rest else trimmed
  | _ => trimmed

/-- Accepts an argument that can be read.  No argument is needed. -/
def checkAction (argument : List Char) : Except ActionFault Unit :=
  let literal := actionLiteral argument
  if argument.isEmpty then .ok ()
  else
    (Literal.check literal).mapError fun fault => match fault with
      | .form cause => .form literal argument cause
      | .value cause => .value argument cause

end SourceCensus.Report
