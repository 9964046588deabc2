import SourceCensus.Literal.Grammar
import SourceCensus.Text.Lines
import Std.Data.HashMap

/-! # Reading literals -/

namespace SourceCensus.Literal

/-- What is read: tokens, the fault that is met at their end, and the fault of texts next to each
other. -/
structure Source where
  tokens : Array Placed
  ending : Option FormFault
  textFault? : List Token → Option FormFault

/-- What was read so far: the results of the rules that are kept, by place, and how many tokens were
asked for. -/
structure Memory where
  kept : Std.HashMap (Nat × Rule) (Option (Value × Nat)) := {}
  reached : Nat := 0

abbrev Reading := ExceptT FormFault (StateM Memory)

inductive Attempt where
  | fits (values : List Value) (place : Nat)
  | fails
  | failsForGood

def Source.tokenAt (source : Source) (place : Nat) : Reading (Option Token) :=
  match source.tokens[place]? with
  | some placed => do
    modify fun memory => { memory with reached := max memory.reached (place + 1) }
    return some placed.token
  | none => match source.ending with
    | some fault => throw fault
    | none => return none

/-- The number of brackets that are open behind the token before a place. -/
def Source.levelBefore (source : Source) (place : Nat) : Nat :=
  (source.tokens[place - 1]?).elim 0 (·.level)

def Source.checkTexts (source : Source) (values : List Value) : Reading Unit :=
  match source.textFault? (Value.tokensOf values) with
  | some fault => throw fault
  | none => return ()

def Token.answers (item : Item) (token : Token) : Bool :=
  match item, token with
  | .sign wanted, .sign found => wanted = found
  | .word wanted, .name found => wanted = found
  | .name, .name found => ! keywords.contains found
  | .softWord, .name found => softKeywords.any fun word => found.toList.isPrefixOf word.toList
  | .number, .number _ | .text, .text _ _ | .lineEnd, .lineEnd | .finish, .finish => true
  | _, _ => false

def Alternative.isBlame (alternative : Alternative) : Bool :=
  match alternative.items with
  | [.rule rule] => rule.isBlame
  | _ => false

structure Mode where
  /-- Whether the rules that stand for faults are asked. -/
  blaming : Bool
  /-- How many more steps down are allowed. -/
  room : Nat

def stepLimit : Nat := 6000

def Mode.down (mode : Mode) (steps : Nat) : Reading Mode :=
  if mode.room < steps then throw .tooComplex
  else return { mode with room := mode.room - steps }

def choiceSteps : List (List Item) → Nat
  | [[_]] => 0
  | _ => 1

def Rule.bodySteps : Rule → Nat
  | .bitOr | .bitXor | .bitAnd | .shift | .sum | .term | .primary | .targetBase
  | .comparedOperand => 1
  | _ => 0

mutual

/-- What a rule reads at a place, and where it ends.  `fuel` bounds the number of calls inside of each
other. -/
def readRule (source : Source) (mode : Mode) : Nat → Rule → Nat → Reading (Option (Value × Nat))
  | 0, _, _ => return none
  | fuel + 1, rule, place => do
    let mode ← mode.down 1
    let memory ← get
    match if rule.isKept then memory.kept[(place, rule)]? else none with
    | some result => return result
    | none =>
      let inner ← mode.down rule.bodySteps
      let blaming := mode.blaming && rule != .quietExpression
      let result ← readBody source { inner with blaming := blaming } fuel rule place
      if rule.isKept then
        modify fun memory => { memory with kept := memory.kept.insert (place, rule) result }
      return result

def readBody (source : Source) (mode : Mode) : Nat → Rule → Nat → Reading (Option (Value × Nat))
  | 0, _, _ => return none
  | fuel + 1, rule, place => do
    match rule.body with
    | .choice alternatives =>
      match ← readChoice source mode fuel alternatives place with
      | none => return none
      | some (values, place) =>
        if rule = .texts then source.checkTexts values
        return some (rule.build values, place)
    | .growing start tails =>
      match ← readChoice source mode fuel start place with
      | none => return none
      | some (values, place) => readTails source mode fuel rule tails (rule.build values) place

def readTails (source : Source) (mode : Mode) :
    Nat → Rule → List Alternative → Value → Nat → Reading (Option (Value × Nat))
  | 0, _, _, value, place => return some (value, place)
  | fuel + 1, rule, tails, value, place => do
    match ← readChoice source mode fuel tails place with
    | none => return some (value, place)
    | some (values, place) =>
      readTails source mode fuel rule tails (rule.build (value :: values)) place

def readChoice (source : Source) (mode : Mode) :
    Nat → List Alternative → Nat → Reading (Option (List Value × Nat))
  | 0, _, _ | _, [], _ => return none
  | fuel + 1, alternative :: others, place => do
    if ! mode.blaming && alternative.isBlame then readChoice source mode fuel others place
    else
      match ← readItems source mode fuel false alternative.items place with
      | .fits values place =>
        match alternative.blame with
        | none => return some (values, place)
        | some blame =>
          match blame (source.levelBefore place) values with
          | some fault => throw fault
          | none => return none
      | .fails => readChoice source mode fuel others place
      | .failsForGood => return none

def readItems (source : Source) (mode : Mode) : Nat → Bool → List Item → Nat → Reading Attempt
  | 0, _, _, _ => return .fails
  | _, _, [], place => return .fits [] place
  | fuel + 1, committed, item :: items, place => do
    match item with
    | .commit => readItems source mode fuel true items place
    | _ =>
      match ← readItem source mode fuel item place with
      | none => return if committed then .failsForGood else .fails
      | some (values, place) =>
        match ← readItems source mode fuel committed items place with
        | .fits more place => return .fits (values ++ more) place
        | attempt => return attempt

def readItem (source : Source) (mode : Mode) :
    Nat → Item → Nat → Reading (Option (List Value × Nat))
  | 0, _, _ => return none
  | fuel + 1, item, place => do
    let choice := fun (steps : Nat) (parts : List (List Item)) => do
      let inner ← mode.down (steps + choiceSteps parts)
      readChoice source inner fuel (parts.map fun items => ⟨items, none⟩) place
    let many := fun (steps : Nat) (before : List Item) (parts : List (List Item)) (place : Nat) => do
      let inner ← mode.down (steps + choiceSteps parts)
      readMany source inner fuel before parts place
    let grouped := fun (found : List Value × Nat) => ([Value.group found.1], found.2)
    match item with
    | .rule rule =>
      return (← readRule source mode fuel rule place).map fun found => ([found.1], found.2)
    | .oneOf parts => return (← choice 0 parts).map grouped
    | .optional parts => return some (grouped ((← choice 0 parts).getD ([], place)))
    | .many parts => return some (grouped (← many 1 [] parts place))
    | .several parts =>
      match ← many 1 [] parts place with
      | ([], _) => return none
      | found => return some (grouped found)
    | .commas parts =>
      match ← choice 1 parts with
      | none => return none
      | some (values, place) =>
        let (more, place) ← many 2 [.sign ","] parts place
        return some (grouped (values ++ more, place))
    | .ahead parts => return (← choice 0 parts).map fun _ => ([], place)
    | .notAhead parts => return if (← choice 0 parts).isSome then none else some ([], place)
    | .commit => return some ([], place)
    | _ =>
      match ← source.tokenAt place with
      | some token => return if token.answers item then some ([.token token], place + 1) else none
      | none => return none

/-- What a choice reads again and again, each time behind the given parts. -/
def readMany (source : Source) (mode : Mode) :
    Nat → List Item → List (List Item) → Nat → Reading (List Value × Nat)
  | 0, _, _, place => return ([], place)
  | fuel + 1, before, parts, place => do
    let alternatives := parts.map fun items => ⟨before ++ items, none⟩
    match ← readChoice source mode fuel alternatives place with
    | none => return ([], place)
    | some (values, place) =>
      let (more, place) ← readMany source mode fuel before parts place
      return (values ++ more, place)

end

/-- What a rule reads from the start of the tokens, and how many of them were asked for.  `reached` of
them were asked for before. -/
def readFrom (source : Source) (blaming : Bool) (rule : Rule) (reached : Nat) :
    Except FormFault (Option Phrase) × Nat :=
  let fuel := 1000 * (source.tokens.size + 2)
  let (result, memory) := (readRule source ⟨blaming, stepLimit⟩ fuel rule 0).run { reached := reached }
  (result.map fun found => found.map fun (value, _) => value.first, memory.reached)

/-- The fault of tokens, given the fault that was found when `reached` of them had been asked for: a
bracket that is never closed goes before a fault on a later line. -/
def lastFault (tokens : Tokens) (reached : Nat) (fault : FormFault) : FormFault :=
  if fault = .tooComplex || some fault = tokens.ending then fault
  else
    match tokens.opened, tokens.list[reached - 1]? with
    | some (opener, line), some placed => if line < placed.line then .neverClosed opener else fault
    | _, _ => fault

def readTokens (textFault? : List Token → Option FormFault) (rule : Rule) (tokens : Tokens) :
    Except FormFault Phrase :=
  let source : Source := ⟨tokens.list.toArray, tokens.ending, textFault?⟩
  match readFrom source false rule 0 with
  | (.ok (some phrase), _) => .ok phrase
  | (.error fault, reached) => .error (lastFault tokens reached fault)
  | (.ok none, reached) =>
    match readFrom source true rule reached with
    | (.error fault, reached) => .error (lastFault tokens reached fault)
    | (.ok _, last) =>
      match tokens.list[reached - 1]? with
      | some ⟨.indent, _, _⟩ => .error .indented
      | _ => .error (lastFault tokens last .grammar)

def bodyFault? (mark : TextMark) (body : List Char) : Option FormFault :=
  if mark.template then none
  else if mark.bytes && body.any (0x80 ≤ ·.toNat) then some .foreignBytes
  else if mark.raw then none
  else (if mark.bytes then byteFault? 0 body else characterFault? 0 body).map .escape

mutual

/-- The first fault of texts next to each other.  `bytes` says whether the text before them is one of
bytes, if there is one, and `depth` bounds the templates inside of each other. -/
def textFault? : Nat → Option Bool → List Token → Option FormFault
  | 0, _, _ => none
  | depth + 1, bytes, .text mark body :: rest =>
    let mixed := if bytes.any (· != mark.bytes) then some FormFault.mixedTexts else none
    let template := if mark.template then templateFault? depth mark.raw body else none
    (((bodyFault? mark body).or mixed).or template).or (textFault? depth (some mark.bytes) rest)
  | _, _, _ => none

def templateFault? : Nat → Bool → List Char → Option FormFault
  | 0, _, _ => none
  | depth + 1, raw, body =>
    let (parts, fault) := templateParts raw body
    (parts.findSome? fun part => match part with
      | .literal text => if raw then none else (characterFault? 0 text).map .escape
      | .expression text => placeFault? depth text).or (fault.map .template)

/-- The fault of an expression in a template.  A fault of its tokens is worded like any other, and so
is one that was found in a template inside of it. -/
def placeFault? : Nat → List Char → Option FormFault
  | 0, _ => none
  | depth + 1, expression =>
    match tokens ('(' :: expression ++ [')']) with
    | .error fault => some (.worded fault.message)
    | .ok found =>
      match readTokens (textFault? depth none) .starExpressions found with
      | .ok _ => none
      | .error .tooComplex => some .tooComplex
      | .error (.worded text) => some (.worded text)
      | .error fault => some (.worded ("f-string: " ++ fault.message))

end

def readPhrase (s : List Char) : Except FormFault Phrase := do
  readTokens (textFault? (s.length + 4) none) .whole (← tokens s)

def check (s : List Char) : Except Fault Unit := do
  if s.contains (Char.ofNat 0) then throw (.value .nullCharacter)
  let phrase ← (readPhrase (Text.uniformBreaks s)).mapError fun fault =>
    if fault = .tooComplex then .value .tooComplex else .form fault
  match phrase.worth with
  | .none => throw (.value .malformed)
  | .broken kind => throw (.value (.unhashable kind))
  | _ => return ()

end SourceCensus.Literal
