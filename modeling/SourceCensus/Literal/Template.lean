import SourceCensus.Literal.Escape

/-! # Templates -/

namespace SourceCensus.Literal

inductive TemplateFault where
  | loneBrace
  | openPlace
  /-- A place to fill in inside of the format of a format. -/
  | tooNested
  | backslash
  | comment
  | openText
  | tooDeep
  | unmatched (bracket : Char)
  /-- A closing bracket for an opening one of another kind. -/
  | mismatched (closer opener : Char)
  | noExpression (sign : Char)
  | conversion
  deriving DecidableEq, Repr

def TemplateFault.message : TemplateFault → String
  | loneBrace => "f-string: single '\x7d' is not allowed"
  | openPlace => "f-string: expecting '\x7d'"
  | tooNested => "f-string: expressions nested too deeply"
  | backslash => "f-string expression part cannot include a backslash"
  | comment => "f-string expression part cannot include '#'"
  | openText => "f-string: unterminated string"
  | tooDeep => "f-string: too many nested parenthesis"
  | unmatched bracket => "f-string: unmatched '" ++ bracket.toString ++ "'"
  | mismatched closer opener =>
    "f-string: closing parenthesis '" ++ closer.toString ++
      "' does not match opening parenthesis '" ++ opener.toString ++ "'"
  | noExpression '\x7d' => "f-string: empty expression not allowed"
  | noExpression sign => "f-string: expression required before '" ++ sign.toString ++ "'"
  | conversion => "f-string: invalid conversion character: expected 's', 'r', or 'a'"

/-- A part of a template. -/
inductive Part where
  | literal (text : List Char)
  | expression (text : List Char)
  deriving DecidableEq, Repr

/-- Where the literal text at the start of a template ends. -/
inductive Stop where
  | doubled (rest : List Char)
  | opening (rest : List Char)
  | closing (rest : List Char)
  | done
  /-- At a closing brace that stands alone. -/
  | fault
  deriving DecidableEq, Repr

/-- Where a text with a brace at its start stops.  Braces are written twice outside of formats. -/
def stopAt (outer : Bool) (brace : Char) (rest : List Char) : List Char × Stop :=
  if outer && rest.head? = some brace then ([brace], .doubled (rest.drop 1))
  else if brace = '\x7b' then ([], .opening rest)
  else if outer then ([], .fault)
  else ([], .closing (brace :: rest))

def isBrace (c : Char) : Bool :=
  c = '\x7b' || c = '\x7d'

/-- The literal text at the start of a template, and where it ends.  A name in braces behind an escape
belongs to it; `named` says that such a name is being read, and `raw` that there are no escapes. -/
def takeLiteral (raw outer named : Bool) : List Char → List Char × Stop
  | [] => ([], .done)
  | c :: rest =>
    let keep := fun (read : List Char × Stop) => (c :: read.1, read.2)
    if named then keep (takeLiteral raw outer (c ≠ '\x7d') rest)
    else if isBrace c then stopAt outer c rest
    else if c = '\\' && ! raw then
      match rest with
      | 'N' :: brace :: more =>
        let read := takeLiteral raw outer (brace = '\x7b') more
        (c :: 'N' :: brace :: read.1, read.2)
      | escaped :: more =>
        if isBrace escaped then keep (stopAt outer escaped more)
        else
          let read := takeLiteral raw outer false more
          (c :: escaped :: read.1, read.2)
      | [] => ([c], .done)
    else keep (takeLiteral raw outer false rest)

/-- The greatest number of brackets inside of each other in an expression. -/
def placeDepthLimit : Nat := 200

def openerOf? (c : Char) : Option Char :=
  if c = ')' then some '(' else if c = ']' then some '[' else if c = '\x7d' then some '\x7b' else none

/-- The expression at the start of a place to fill in, and the rest from the sign that ends it on.
The next `skip` characters were judged together with one before them, `quote` is the open quote and
whether it is threefold, and `opened` are the open brackets. -/
def takeExpression (skip : Nat) (quote : Option (Char × Bool)) (opened : List Char) :
    List Char → Except TemplateFault (List Char × List Char)
  | [] =>
    match quote, opened with
    | some _, _ => .error .openText
    | none, bracket :: _ => .error (.unmatched bracket)
    | none, [] => .error .openPlace
  | c :: rest =>
    let go := fun (skip : Nat) (quote : Option (Char × Bool)) (opened : List Char) =>
      (takeExpression skip quote opened rest).map fun found => (c :: found.1, found.2)
    let threefold := rest.take 2 == [c, c]
    if 0 < skip then go (skip - 1) quote opened
    else if c = '\\' then .error .backslash
    else
      match quote with
      | some (mark, long) =>
        if c ≠ mark then go 0 quote opened
        else if ! long then go 0 none opened
        else if threefold then go 2 none opened
        else go 0 quote opened
      | none =>
        if c = '\'' || c = '"' then go (if threefold then 2 else 0) (some (c, threefold)) opened
        else if c = '(' || c = '[' || c = '\x7b' then
          if placeDepthLimit ≤ opened.length then .error .tooDeep else go 0 none (c :: opened)
        else if c = '#' then .error .comment
        else if opened.isEmpty && ['!', '=', '<', '>'].contains c && rest.head? = some '=' then
          go 1 none opened
        else if opened.isEmpty && ['!', ':', '\x7d', '='].contains c then .ok ([], c :: rest)
        else
          match openerOf? c, opened with
          | none, _ => go 0 none opened
          | some _, [] => .error (.unmatched c)
          | some opener, bracket :: outside =>
            if bracket = opener then go 0 none outside else .error (.mismatched c bracket)

def isGap (c : Char) : Bool :=
  c = ' ' || c = '\t' || c = '\n' || c = '\x0c'

/-- What follows the expression, the mark that repeats it and the conversion of a place. -/
def afterConversion (rest : List Char) : Except TemplateFault (List Char) :=
  let unmarked := match rest with
    | '=' :: more => more.dropWhile fun c => isGap c || c = '\r' || c = '\x0b'
    | _ => rest
  match unmarked with
  | '!' :: c :: more => if c = 's' || c = 'r' || c = 'a' then .ok more else .error .conversion
  | ['!'] => .error .openPlace
  | _ => .ok unmarked

/-- The parts of a template, and what follows it or the fault that ends it. -/
structure Cutting where
  parts : List Part
  ending : Except TemplateFault (List Char)

def Cutting.behind (parts : List Part) (cutting : Cutting) : Cutting :=
  ⟨parts ++ cutting.parts, cutting.ending⟩

def Cutting.broken (fault : TemplateFault) : Cutting :=
  ⟨[], .error fault⟩

mutual

/-- The parts of a template at some level: formats are one level deeper. -/
def cutTemplate (raw : Bool) : Nat → Nat → List Char → Cutting
  | 0, _, s => ⟨[], .ok s⟩
  | fuel + 1, level, s =>
    let (text, stop) := takeLiteral raw (level == 0) false s
    let parts := if text.isEmpty then [] else [.literal text]
    match stop with
    | .doubled rest => (cutTemplate raw fuel level rest).behind parts
    | .opening rest => (cutPlace raw fuel level rest).behind parts
    | .closing rest => ⟨parts, .ok rest⟩
    | .done => ⟨parts, if level = 0 then .ok [] else .error .openPlace⟩
    | .fault => .broken .loneBrace

def cutPlace (raw : Bool) : Nat → Nat → List Char → Cutting
  | 0, _, s => ⟨[], .ok s⟩
  | fuel + 1, level, s =>
    if 2 ≤ level then .broken .tooNested
    else
      match takeExpression 0 none [] s with
      | .error fault => .broken fault
      | .ok (expression, rest) =>
        if expression.all isGap then .broken (.noExpression (rest.headD '\x7d'))
        else
          let close : List Char → Cutting := fun rest => match rest with
            | '\x7d' :: more => cutTemplate raw fuel level more
            | _ => .broken .openPlace
          let cutting : Cutting := match afterConversion rest with
            | .error fault => .broken fault
            | .ok [':'] => .broken .openPlace
            | .ok (':' :: more) =>
              let format := cutTemplate raw fuel (level + 1) more
              match format.ending with
              | .error fault => ⟨format.parts, .error fault⟩
              | .ok rest => (close rest).behind format.parts
            | .ok rest => close rest
          cutting.behind [.expression expression]

end

def templateParts (raw : Bool) (s : List Char) : List Part × Option TemplateFault :=
  let cutting := cutTemplate raw (2 * s.length + 2) 0 s
  (cutting.parts, match cutting.ending with
    | .error fault => some fault
    | .ok _ => none)

end SourceCensus.Literal
