import SourceCensus.Literal.Fault
import SourceCensus.Text.Symbol

/-! # Tokens of literals -/

namespace SourceCensus.Literal

/-- What stands before the quote of a text: whether it is one of bytes, one without escapes and one
with places to fill in. -/
structure TextMark where
  bytes : Bool
  raw : Bool
  template : Bool
  deriving DecidableEq, Repr

/-- A part of an expression. -/
inductive Token where
  | name (text : String)
  | number (imaginary : Bool)
  | text (mark : TextMark) (body : List Char)
  | sign (text : String)
  | lineEnd
  /-- Blanks at the start of a line outside of brackets. -/
  | indent
  | finish
  deriving DecidableEq, Repr

abbrev Opening := Char × Nat

def startsName (c : Char) : Bool :=
  c.isAlpha || c = '_' || 0x80 ≤ c.toNat

def continuesName (c : Char) : Bool :=
  startsName c || c.isDigit

def afterDigits : List Char → Except FormFault (List Char)
  | [] => .ok []
  | c :: rest =>
    if c.isDigit then afterDigits rest
    else if c = '_' then
      match rest with
      | d :: more => if d.isDigit then afterDigits more else .error (.number "decimal")
      | [] => .error (.number "decimal")
    else .ok (c :: rest)

def afterZeros : List Char → Except FormFault (List Char)
  | [] => .ok []
  | c :: rest =>
    if c = '0' then afterZeros rest
    else if c = '_' then
      match rest with
      | d :: more =>
        if d = '0' then afterZeros more
        else if d.isDigit then .ok (d :: more)
        else .error (.number "decimal")
      | [] => .error (.number "decimal")
    else .ok (c :: rest)

/-- What follows the digits of another base.  `needed` says that a digit must come next, and
`separable` that an underscore may. -/
def afterBaseDigits (isDigit : Char → Bool) (kind : String) (needed separable : Bool) :
    List Char → Except FormFault (List Char)
  | [] => if needed then .error (.number kind) else .ok []
  | c :: rest =>
    if isDigit c then afterBaseDigits isDigit kind false true rest
    else if c = '_' && separable then afterBaseDigits isDigit kind true false rest
    else if c.isDigit then .error (.digit c kind)
    else if needed then .error (.number kind)
    else .ok (c :: rest)

/-- Whether a text starts with a word that may follow a number without a blank.  Of a word with two
letters only the start counts. -/
def startsFollower (s : List Char) : Bool :=
  let word := String.ofList (s.takeWhile continuesName)
  ["and", "else", "for", "not", "or"].contains word ||
    ["if", "in", "is"].any (·.toList.isPrefixOf s)

/-- Refuses a number that runs into a name of ASCII characters. -/
def checkEnd (kind : String) (rest : List Char) : Except FormFault Unit :=
  if (rest.head?.any fun c => c.toNat < 0x80 && continuesName c) && ! startsFollower rest then
    .error (.number kind)
  else .ok ()

def imaginaryTail (s : List Char) : Except FormFault (Bool × List Char) :=
  match s with
  | c :: rest =>
    if c = 'j' || c = 'J' then do
      checkEnd "imaginary" rest
      return (true, rest)
    else do
      checkEnd "decimal" s
      return (false, s)
  | [] => .ok (false, [])

def exponentTail (s : List Char) : Except FormFault (Bool × List Char) :=
  match s with
  | e :: rest =>
    if e = 'e' || e = 'E' then
      let signed := rest.head?.any fun c => c = '+' || c = '-'
      let digits := if signed then rest.drop 1 else rest
      if digits.head?.any Char.isDigit then do imaginaryTail (← afterDigits digits)
      else if signed then .error (.number "decimal")
      else do
        checkEnd "decimal" s
        return (false, s)
    else imaginaryTail s
  | [] => .ok (false, [])

def fractionTail (s : List Char) : Except FormFault (Bool × List Char) :=
  match s with
  | '.' :: rest =>
    if rest.head?.any Char.isDigit then do exponentTail (← afterDigits rest)
    else exponentTail rest
  | _ => exponentTail s

def goesOn (s : List Char) : Bool :=
  s.head?.any fun c => c = '.' || c = 'e' || c = 'E' || c = 'j' || c = 'J'

def zeroNumber (s : List Char) : Except FormFault (Bool × List Char) := do
  let rest ← afterZeros s
  if rest.head?.any Char.isDigit then
    let rest ← afterDigits rest
    if goesOn rest then fractionTail rest else throw .leadingZeros
  else fractionTail rest

def baseNumber (isDigit : Char → Bool) (kind : String) (s : List Char) :
    Except FormFault (Bool × List Char) := do
  let rest ← afterBaseDigits isDigit kind true true s
  checkEnd kind rest
  return (false, rest)

/-- A number that starts with a digit other than zero.  Whole numbers have a limit of digits. -/
def decimalNumber (s : List Char) : Except FormFault (Bool × List Char) := do
  let rest ← afterDigits s
  let count := (s.take (s.length - rest.length)).countP Char.isDigit
  let number ← fractionTail rest
  if Text.digitLimit < count && ! goesOn rest then throw (.digits (.unreadable count))
  return number

def readNumber (s : List Char) : Except FormFault (Bool × List Char) :=
  match s with
  | '0' :: mark :: rest =>
    if mark = 'x' || mark = 'X' then baseNumber isHexDigit "hexadecimal" rest
    else if mark = 'o' || mark = 'O' then
      baseNumber (fun c => '0' ≤ c && c ≤ '7') "octal" rest
    else if mark = 'b' || mark = 'B' then baseNumber (fun c => c = '0' || c = '1') "binary" rest
    else zeroNumber s
  | '0' :: _ => zeroNumber s
  | '.' :: _ => fractionTail s
  | _ => decimalNumber s

def afterQuote (quote : Char) (line : Nat) : List Char → Except FormFault (List Char)
  | [] => .error (.openText line)
  | c :: rest =>
    if c = quote then .ok rest
    else if c = '\n' then .error (.openText line)
    else if c = '\\' then
      match rest with
      | escaped :: more => afterQuote quote (if escaped = '\n' then line + 1 else line) more
      | [] => .error (.openText line)
    else afterQuote quote line rest

/-- What follows a text in threefold quotes.  `seen` closing quotes came right before. -/
def afterLongQuote (quote : Char) (line seen : Nat) : List Char → Except FormFault (List Char)
  | [] => .error (.openLongText line)
  | c :: rest =>
    if c = quote then
      if seen = 2 then .ok rest else afterLongQuote quote line (seen + 1) rest
    else if c = '\\' then
      match rest with
      | _ :: more => afterLongQuote quote line 0 more
      | [] => .error (.openLongText line)
    else afterLongQuote quote line 0 rest

def afterText (quote : Char) (line : Nat) (rest : List Char) : Except FormFault (List Char) :=
  match rest with
  | c :: d :: more =>
    if c = quote && d = quote then
      afterLongQuote quote (line + more.countP (· == '\n')) 0 more
    else afterQuote quote line rest
  | _ => afterQuote quote line rest

def textMarks : List String := ["b", "u", "r", "f", "br", "rb", "fr", "rf"]

def longSigns : List String := [
  "**=", "...", "//=", "<<=", ">>=", "!=", "%=", "&=", "**", "*=", "+=", "-=", "->", "//", "/=",
  ":=", "<<", "<=", "<>", "==", ">=", ">>", "@=", "^=", "|="]

def signAt (c : Char) (rest : List Char) : String :=
  (longSigns.find? (·.toList.isPrefixOf (c :: rest))).getD c.toString

def depthLimit : Nat := 200

def matchBracket (line : Nat) (opened : List Opening) (sign : String) :
    Except FormFault (List Opening) :=
  let closes := fun (closer opener : Char) => match opened with
    | [] => Except.error (.unmatched closer)
    | (last, place) :: rest =>
      if last = opener then .ok rest
      else .error (.mismatched closer last (if place = line then none else some place))
  match sign with
  | "(" => if depthLimit ≤ opened.length then .error .tooDeep else .ok (('(', line) :: opened)
  | "\x7b" => if depthLimit ≤ opened.length then .error .tooDeep else .ok (('\x7b', line) :: opened)
  | ")" => closes ')' '('
  | "\x7d" => closes '\x7d' '\x7b'
  | _ => .ok opened

/-- The first character of a word that cannot stand there. -/
def misplaced? (word : List Char) : Option Char :=
  let fits := fun (c : Char) => c.toNat < 0x80 || Text.isNameSymbol c
  match word with
  | c :: _ =>
    if 0x80 ≤ c.toNat && (Text.digitValue? c).isSome then some c else word.find? (! fits ·)
  | [] => none

def nameToken (word : List Char) : Except FormFault Token :=
  match misplaced? word with
  | some c => .error (.character c)
  | none => .ok (.name (String.ofList word))

def textToken (mark : String) (quote : Char) (line : Nat) (rest : List Char) :
    Except FormFault (Token × List Char) := do
  let after ← afterText quote line rest
  let quoted := rest.take (rest.length - after.length)
  let width := if quoted.take 2 == [quote, quote] then 2 else 0
  let body := (quoted.drop width).take (quoted.length - 1 - 2 * width)
  return (.text ⟨mark.contains 'b', mark.contains 'r', mark.contains 'f'⟩ body, after)

/-- A token, the number of brackets that are open behind it, and its line. -/
structure Placed where
  token : Token
  level : Nat
  line : Nat

structure Tokens where
  list : List Placed
  ending : Option FormFault
  /-- The last bracket that is still open at the end. -/
  opened : Option Opening

def openFault (opened : List Opening) : Option FormFault :=
  opened.head?.map fun opening => .neverClosed opening.1

def tokensEnd (line : Nat) (opened : List Opening) : Tokens :=
  let rest := if opened.isEmpty then [.lineEnd, .finish] else []
  ⟨rest.map fun token => ⟨token, 0, line⟩, openFault opened, opened.head?⟩

def startsIndented (s : List Char) : Bool :=
  let rest := s.dropWhile fun c => c = ' ' || c = '\t'
  rest.length < s.length && rest.head?.any fun c => c ≠ '\n' && c ≠ '#' && c ≠ '\x0c'

/-- The tokens of a text.  `line` is the number of the line, `opened` are the open brackets, and
`fuel` bounds the number of steps. -/
def tokensFrom : Nat → Nat → List Opening → List Char → Except FormFault Tokens
  | 0, line, opened, _ | _, line, opened, [] => .ok (tokensEnd line opened)
  | fuel + 1, line, opened, c :: rest => do
    let behind := fun (opened : List Opening) (found : List Token) (after : List Char) => do
      let read := (c :: rest).take (rest.length + 1 - after.length)
      let tokens ← tokensFrom fuel (line + read.countP (· == '\n')) opened after
      return { tokens with list := found.map (⟨·, opened.length, line⟩) ++ tokens.list }
    if c = ' ' || c = '\t' || c = '\x0c' then tokensFrom fuel line opened rest
    else if c = '\n' then
      if opened.isEmpty then
        let indents := if startsIndented rest then [.indent] else []
        behind opened (.lineEnd :: indents) rest
      else tokensFrom fuel (line + 1) opened rest
    else if c = '#' then tokensFrom fuel line opened (rest.dropWhile (· != '\n'))
    else if c = '\\' then
      match rest with
      | '\n' :: more => tokensFrom fuel (line + 1) opened more
      | _ => return ⟨[], some .strayBackslash, opened.head?⟩
    else if c = '\'' || c = '"' then
      let (token, after) ← textToken "" c line rest
      behind opened [token] after
    else if startsName c then
      let word := c :: rest.takeWhile continuesName
      let after := rest.dropWhile continuesName
      let mark := String.ofList (word.map Char.toLower)
      match after with
      | quote :: more =>
        if (quote = '\'' || quote = '"') && textMarks.contains mark then
          let (token, after) ← textToken mark quote line more
          behind opened [token] after
        else behind opened [← nameToken word] after
      | [] => behind opened [← nameToken word] after
    else if c.isDigit || (c = '.' && rest.head?.any Char.isDigit) then
      let (imaginary, after) ← readNumber (c :: rest)
      behind opened [.number imaginary] after
    else if ! Text.isPrintable c then throw (.character c)
    else
      let sign := signAt c rest
      behind (← matchBracket line opened sign) [.sign sign] (rest.drop (sign.length - 1))

def tokens (s : List Char) : Except FormFault Tokens :=
  tokensFrom (s.length + 1) 1 [] s

end SourceCensus.Literal
