import SourceCensus.Literal.Template
import SourceCensus.Text.Integer
import SourceCensus.Text.Quoted

/-! # Faults of literals -/

namespace SourceCensus.Literal

inductive ParameterFault where
  | order
  | bracketed
  | leadingSlash
  | secondSlash
  | lateSlash
  | missingComma
  | bareStar
  | starDefault
  | secondStar
  | restDefault
  | behindRest
  | missingDefault
  deriving DecidableEq, Repr

def ParameterFault.message : ParameterFault → String
  | order => "non-default argument follows default argument"
  | bracketed => "Lambda expression parameters cannot be parenthesized"
  | leadingSlash => "at least one argument must precede /"
  | secondSlash => "/ may appear only once"
  | lateSlash => "/ must be ahead of *"
  | missingComma => "expected comma between / and *"
  | bareStar => "named arguments must follow bare *"
  | starDefault => "var-positional argument cannot have default value"
  | secondStar => "* argument may appear only once"
  | restDefault => "var-keyword argument cannot have default value"
  | behindRest => "arguments cannot follow var-keyword argument"
  | missingDefault => "expected default value expression"

inductive FormFault where
  | grammar
  | openText (line : Nat)
  | openLongText (line : Nat)
  /-- A backslash outside of quotes is not at the end of a line. -/
  | strayBackslash
  | indented
  | character (c : Char)
  | number (kind : String)
  | digit (c : Char) (kind : String)
  | leadingZeros
  | digits (cause : Text.DigitFault)
  | unmatched (closer : Char)
  /-- A closing bracket for an opening one of another kind, on the given line if that is another. -/
  | mismatched (closer opener : Char) (line : Option Nat)
  | neverClosed (opener : Char)
  | tooDeep
  | mixedTexts
  /-- A text of bytes with a character outside of ASCII. -/
  | foreignBytes
  | escape (cause : EscapeFault)
  | template (cause : TemplateFault)
  | worded (text : String)
  /-- Two expressions next to each other in brackets. -/
  | missingComma
  | missingCall (name : String)
  | missingElse
  | assignment
  | assignmentTo (what : String)
  /-- An equals sign behind an argument that is no name. -/
  | assignmentInCall
  /-- Something that takes no value in a place for names. -/
  | unassignable (what : String)
  | argumentOrder (takenOver : Bool)
  | starOrder
  /-- A generator among other arguments without brackets of its own. -/
  | bareGenerator
  | namingOf (what : String)
  /-- A star, or two, before the only thing in brackets. -/
  | starred (double : Bool)
  | starredValue
  | missingColon
  | missingValue
  | starredCollection (double : Bool)
  /-- Several things are collected without brackets around them. -/
  | bareCollection
  | parameters (cause : ParameterFault)
  /-- It takes too many steps down to read it. -/
  | tooComplex
  deriving DecidableEq, Repr

def characterMessage (c : Char) : String :=
  let code := String.ofList ('U' :: '+' :: (Text.hexadecimal 4 c.toNat).map Char.toUpper)
  if Text.isPrintable c then "invalid character '" ++ c.toString ++ "' (" ++ code ++ ")"
  else "invalid non-printable character " ++ code

def FormFault.message : FormFault → String
  | grammar => "invalid syntax"
  | openText line => "unterminated string literal (detected at line " ++ toString line ++ ")"
  | openLongText line =>
    "unterminated triple-quoted string literal (detected at line " ++ toString line ++ ")"
  | strayBackslash => "unexpected character after line continuation character"
  | indented => "unexpected indent"
  | character c => characterMessage c
  | number kind => "invalid " ++ kind ++ " literal"
  | digit c kind => "invalid digit '" ++ c.toString ++ "' in " ++ kind ++ " literal"
  | leadingZeros =>
    "leading zeros in decimal integer literals are not permitted; " ++
      "use an 0o prefix for octal integers"
  | digits cause =>
    cause.message ++
      " - Consider hexadecimal for huge integer literals to avoid decimal conversion limits."
  | unmatched closer => "unmatched '" ++ closer.toString ++ "'"
  | mismatched closer opener line =>
    "closing parenthesis '" ++ closer.toString ++ "' does not match opening parenthesis '" ++
      opener.toString ++ "'" ++ line.elim "" (" on line " ++ toString ·)
  | neverClosed opener => "'" ++ opener.toString ++ "' was never closed"
  | tooDeep => "too many nested parentheses"
  | mixedTexts => "cannot mix bytes and nonbytes literals"
  | foreignBytes => "bytes can only contain ASCII literal characters"
  | escape cause => cause.message
  | template cause => cause.message
  | worded text => text
  | missingComma => "invalid syntax. Perhaps you forgot a comma?"
  | missingCall name =>
    "Missing parentheses in call to '" ++ name ++ "'. Did you mean " ++ name ++ "(...)?"
  | missingElse => "expected 'else' after 'if' expression"
  | assignment => "invalid syntax. Maybe you meant '==' or ':=' instead of '='?"
  | assignmentTo what =>
    "cannot assign to " ++ what ++ " here. Maybe you meant '==' instead of '='?"
  | assignmentInCall => "expression cannot contain assignment, perhaps you meant \"==\"?"
  | unassignable what => "cannot assign to " ++ what
  | argumentOrder takenOver =>
    "positional argument follows keyword argument" ++ (if takenOver then " unpacking" else "")
  | starOrder => "iterable argument unpacking follows keyword argument unpacking"
  | bareGenerator => "Generator expression must be parenthesized"
  | namingOf what => "cannot use assignment expressions with " ++ what
  | starred double =>
    "cannot use " ++ (if double then "double " else "") ++ "starred expression here"
  | starredValue => "cannot use a starred expression in a dictionary value"
  | missingColon => "':' expected after dictionary key"
  | missingValue => "expression expected after dictionary key and ':'"
  | starredCollection double =>
    if double then "dict unpacking cannot be used in dict comprehension"
    else "iterable unpacking cannot be used in comprehension"
  | bareCollection => "did you forget parentheses around the comprehension target?"
  | parameters cause => cause.message
  | tooComplex => ""

inductive ValueFault where
  | nullCharacter
  | malformed
  /-- A member of a set or a key of a dictionary of a kind that cannot be one. -/
  | unhashable (kind : String)
  /-- It takes too many steps down to read the expression; there are no words for it. -/
  | tooComplex
  deriving DecidableEq, Repr

def ValueFault.message : ValueFault → String
  | nullCharacter => "source code string cannot contain null bytes"
  | malformed => "malformed node or string on line 1"
  | unhashable kind => "unhashable type: " ++ Text.quoted kind
  | tooComplex => ""

/-- Why a text cannot be read as a literal. -/
inductive Fault where
  | form (cause : FormFault)
  | value (cause : ValueFault)
  deriving DecidableEq, Repr

end SourceCensus.Literal
