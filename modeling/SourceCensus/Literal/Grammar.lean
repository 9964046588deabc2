import SourceCensus.Literal.Phrase

/-! # The grammar of expressions -/

namespace SourceCensus.Literal

/-- The rules of the grammar. -/
inductive Rule where
  | whole | expressions | expression | quietExpression
  | yielding | starExpressions | starExpression | starNamedExpressions | starNamedExpression
  | naming | namedExpression
  | disjunction | conjunction | inversion | comparison | comparedOperand
  | bitOr | bitXor | bitAnd | shift | sum | term | factor | power | awaited | primary
  | atom | texts | group | tuple | set | dictionary | entries | entry | pair
  | clauses | clause | setCollection | generator | dictionaryCollection
  | arguments | argumentList | namedArguments | starred | namedOrStarred | namedOrTakenOver
  | function | parameters | parameterList | slashPlain | slashDefault | starParameters
  | restParameter | plainParameter | defaultParameter | anyParameter | defaultValue
  | targets | target | targetAtom | targetItem | targetTuple | targetBase
  | blameExpression | blameCommand | blameNaming | blameGroup | blameEntries | blameEntry
  | blameTarget | blameCollection | blameEntryCollection | blameArguments | blameNamed
  | blameParameters | blameStarParameters | blameRestParameter | blameDefault
  deriving DecidableEq, Repr, Hashable

inductive Item where
  | sign (text : String)
  | word (text : String)
  | name
  /-- A name that is a keyword elsewhere, or the start of one. -/
  | softWord
  | number
  | text
  | lineEnd
  | finish
  | rule (rule : Rule)
  | oneOf (choice : List (List Item))
  | optional (choice : List (List Item))
  | many (choice : List (List Item))
  | several (choice : List (List Item))
  | commas (choice : List (List Item))
  | ahead (choice : List (List Item))
  | notAhead (choice : List (List Item))
  | commit

inductive Value where
  | token (token : Token)
  | phrase (phrase : Phrase)
  | group (values : List Value)

/-- An alternative of a rule.  One with a blame stands for the fault that it finds in the values of
its parts and the number of brackets that are open behind them; it fails if it finds none. -/
structure Alternative where
  items : List Item
  blame : Option (Nat → List Value → Option FormFault) := none

inductive Body where
  | choice (alternatives : List Alternative)
  /-- A start, and ways to go on behind what was read so far. -/
  | growing (start tails : List Alternative)

def keywords : List String := [
  "False", "None", "True", "and", "as", "assert", "async", "await", "break", "class", "continue",
  "def", "del", "elif", "else", "except", "finally", "for", "from", "global", "if", "import", "in",
  "is", "lambda", "nonlocal", "not", "or", "pass", "raise", "return", "try", "while", "with",
  "yield"]

/-- Words that are names, but not where two expressions stand next to each other.  The same holds for
the starts of these words. -/
def softKeywords : List String := ["_", "case", "match"]

namespace Value

def single : Value → Value
  | group [value] => value
  | value => value

mutual

def phrases : Value → List Phrase
  | token _ => []
  | phrase p => [p]
  | group values => phrasesOf values

def phrasesOf : List Value → List Phrase
  | [] => []
  | value :: values => value.phrases ++ phrasesOf values

end

mutual

def tokens : Value → List Token
  | token t => [t]
  | phrase _ => []
  | group values => tokensOf values

def tokensOf : List Value → List Token
  | [] => []
  | value :: values => value.tokens ++ tokensOf values

end

def first (value : Value) : Phrase :=
  value.phrases.headD (.other "expression")

end Value

namespace Rule

def choices (alternatives : List (List Item)) : Body :=
  .choice (alternatives.map fun items => ⟨items, none⟩)

def operations (operand : Rule) (operators : List String) : Body :=
  .growing [⟨[.rule operand], none⟩]
    (operators.map fun operator => ⟨[.sign operator, .rule operand], none⟩)

def row (item : Rule) : Body :=
  choices [
    [.rule item, .several [[.sign ",", .rule item]], .optional [[.sign ","]]],
    [.rule item, .sign ","],
    [.rule item]]

def fault (items : List Item) (cause : FormFault) : Alternative :=
  ⟨items, some fun _ _ => some cause⟩

def parameterFault (items : List Item) (cause : ParameterFault) : Alternative :=
  fault items (.parameters cause)

def unnamed : Item :=
  .oneOf [[.rule naming], [.rule expression, .notAhead [[.sign ":="]]]]

def parameter (items : List Item) : Body :=
  choices [items ++ [.sign ","], items ++ [.ahead [[.sign ":"]]]]

/-- What a rule consists of, for rules that stand for no fault. -/
def plainBody : Rule → Body
  | whole => choices [[.rule expressions, .many [[.lineEnd]], .finish]]
  | expressions => row expression
  | expression => choices [
    [.rule blameExpression],
    [.rule blameCommand],
    [.rule disjunction, .word "if", .rule disjunction, .word "else", .rule expression],
    [.rule disjunction],
    [.rule function]]
  | quietExpression => choices [
    [.rule disjunction, .word "if", .rule disjunction, .word "else", .rule expression],
    [.rule disjunction],
    [.rule function]]
  | yielding => choices [
    [.word "yield", .word "from", .rule expression],
    [.word "yield", .optional [[.rule starExpressions]]]]
  | starExpressions => row starExpression
  | starExpression => choices [[.sign "*", .rule bitOr], [.rule expression]]
  | starNamedExpressions => choices [
    [.commas [[.rule starNamedExpression]], .optional [[.sign ","]]]]
  | starNamedExpression => choices [[.sign "*", .rule bitOr], [.rule namedExpression]]
  | naming => choices [[.name, .sign ":=", .commit, .rule expression]]
  | namedExpression => choices [
    [.rule naming],
    [.rule blameNaming],
    [.rule expression, .notAhead [[.sign ":="]]]]
  | disjunction => choices [
    [.rule conjunction, .several [[.word "or", .rule conjunction]]],
    [.rule conjunction]]
  | conjunction => choices [
    [.rule inversion, .several [[.word "and", .rule inversion]]],
    [.rule inversion]]
  | inversion => choices [[.word "not", .rule inversion], [.rule comparison]]
  | comparison => choices [
    [.rule bitOr, .several [[.rule comparedOperand]]],
    [.rule bitOr]]
  | comparedOperand => choices [
    [.sign "==", .rule bitOr], [.sign "!=", .rule bitOr], [.sign "<=", .rule bitOr],
    [.sign "<", .rule bitOr], [.sign ">=", .rule bitOr], [.sign ">", .rule bitOr],
    [.word "not", .word "in", .rule bitOr], [.word "in", .rule bitOr],
    [.word "is", .word "not", .rule bitOr], [.word "is", .rule bitOr]]
  | bitOr => operations bitXor ["|"]
  | bitXor => operations bitAnd ["^"]
  | bitAnd => operations shift ["&"]
  | shift => operations sum ["<<", ">>"]
  | sum => operations term ["+", "-"]
  | term => operations factor ["*", "/", "//", "%", "@"]
  | factor => choices [
    [.sign "+", .rule factor], [.sign "-", .rule factor], [.sign "~", .rule factor],
    [.rule power]]
  | power => choices [[.rule awaited, .sign "**", .rule factor], [.rule awaited]]
  | awaited => choices [[.word "await", .rule primary], [.rule primary]]
  | primary => .growing [⟨[.rule atom], none⟩] [
    ⟨[.sign ".", .name], none⟩,
    ⟨[.rule generator], none⟩,
    ⟨[.sign "(", .optional [[.rule arguments]], .sign ")"], none⟩]
  | atom => choices [
    [.name], [.word "True"], [.word "False"], [.word "None"],
    [.ahead [[.text]], .rule texts],
    [.number],
    [.ahead [[.sign "("]], .oneOf [[.rule tuple], [.rule group], [.rule generator]]],
    [.ahead [[.sign "\x7b"]],
      .oneOf [[.rule dictionary], [.rule set], [.rule dictionaryCollection], [.rule setCollection]]],
    [.sign "..."]]
  | texts => choices [[.several [[.text]]]]
  | group => choices [
    [.sign "(", .oneOf [[.rule yielding], [.rule namedExpression]], .sign ")"],
    [.rule blameGroup]]
  | tuple => choices [
    [.sign "(",
      .optional [[.rule starNamedExpression, .sign ",", .optional [[.rule starNamedExpressions]]]],
      .sign ")"]]
  | set => choices [[.sign "\x7b", .rule starNamedExpressions, .sign "\x7d"]]
  | dictionary => choices [
    [.sign "\x7b", .optional [[.rule entries]], .sign "\x7d"],
    [.sign "\x7b", .rule blameEntries, .sign "\x7d"]]
  | entries => choices [[.commas [[.rule entry]], .optional [[.sign ","]]]]
  | entry => choices [[.sign "**", .rule bitOr], [.rule pair]]
  | pair => choices [[.rule expression, .sign ":", .rule expression]]
  | clauses => choices [[.several [[.rule clause]]]]
  | clause => choices [
    [.word "async", .word "for", .rule targets, .word "in", .commit, .rule disjunction,
      .many [[.word "if", .rule disjunction]]],
    [.word "for", .rule targets, .word "in", .commit, .rule disjunction,
      .many [[.word "if", .rule disjunction]]],
    [.rule blameTarget]]
  | setCollection => choices [
    [.sign "\x7b", .rule namedExpression, .rule clauses, .sign "\x7d"],
    [.rule blameCollection]]
  | generator => choices [
    [.sign "(", unnamed, .rule clauses, .sign ")"],
    [.rule blameCollection]]
  | dictionaryCollection => choices [
    [.sign "\x7b", .rule pair, .rule clauses, .sign "\x7d"],
    [.rule blameEntryCollection]]
  | arguments => choices [
    [.rule argumentList, .optional [[.sign ","]], .ahead [[.sign ")"]]],
    [.rule blameArguments]]
  | argumentList => choices [
    [.commas [[.rule starred], [unnamed, .notAhead [[.sign "="]]]],
      .optional [[.sign ",", .rule namedArguments]]],
    [.rule namedArguments]]
  | namedArguments => choices [
    [.commas [[.rule namedOrStarred]], .sign ",", .commas [[.rule namedOrTakenOver]]],
    [.commas [[.rule namedOrStarred]]],
    [.commas [[.rule namedOrTakenOver]]]]
  | starred => choices [[.sign "*", .rule expression]]
  | namedOrStarred => choices [
    [.rule blameNamed], [.name, .sign "=", .rule expression], [.rule starred]]
  | namedOrTakenOver => choices [
    [.rule blameNamed], [.name, .sign "=", .rule expression], [.sign "**", .rule expression]]
  | function => choices [
    [.word "lambda", .optional [[.rule parameters]], .sign ":", .rule expression]]
  | parameters => choices [[.rule blameParameters], [.rule parameterList]]
  | parameterList => choices [
    [.rule slashPlain, .many [[.rule plainParameter]], .many [[.rule defaultParameter]],
      .optional [[.rule starParameters]]],
    [.rule slashDefault, .many [[.rule defaultParameter]], .optional [[.rule starParameters]]],
    [.several [[.rule plainParameter]], .many [[.rule defaultParameter]],
      .optional [[.rule starParameters]]],
    [.several [[.rule defaultParameter]], .optional [[.rule starParameters]]],
    [.rule starParameters]]
  | slashPlain => parameter [.several [[.rule plainParameter]], .sign "/"]
  | slashDefault => parameter [
    .many [[.rule plainParameter]], .several [[.rule defaultParameter]], .sign "/"]
  | starParameters => choices [
    [.rule blameStarParameters],
    [.sign "*", .rule plainParameter, .many [[.rule anyParameter]],
      .optional [[.rule restParameter]]],
    [.sign "*", .sign ",", .several [[.rule anyParameter]], .optional [[.rule restParameter]]],
    [.rule restParameter]]
  | restParameter => choices [[.rule blameRestParameter], [.sign "**", .rule plainParameter]]
  | plainParameter => parameter [.name]
  | defaultParameter => parameter [.name, .rule defaultValue]
  | anyParameter => parameter [.name, .optional [[.rule defaultValue]]]
  | defaultValue => choices [[.sign "=", .rule expression], [.rule blameDefault]]
  | targets => choices [
    [.rule target, .notAhead [[.sign ","]]],
    [.rule target, .many [[.sign ",", .rule target]], .optional [[.sign ","]]]]
  | target => choices [
    [.sign "*", .notAhead [[.sign "*"]], .rule target], [.rule targetAtom]]
  | targetAtom => choices [
    [.rule targetBase, .sign ".", .name, .notAhead [[.sign "("], [.sign "."]]],
    [.rule targetItem]]
  | targetItem => choices [
    [.name],
    [.sign "(", .rule targetAtom, .sign ")"],
    [.sign "(", .optional [[.rule targetTuple]], .sign ")"]]
  | targetTuple => choices [
    [.rule target, .several [[.sign ",", .rule target]], .optional [[.sign ","]]],
    [.rule target, .sign ","]]
  | targetBase =>
    let more : Item := .ahead [[.sign "("], [.sign "."]]
    .growing [⟨[.rule atom, more], none⟩] [
      ⟨[.sign ".", .name, more], none⟩,
      ⟨[.rule generator, more], none⟩,
      ⟨[.sign "(", .optional [[.rule arguments]], .sign ")", more], none⟩]
  | _ => choices []

/-- The fault of two expressions next to each other, of which the first is no old command. -/
def blameNeighbours (level : Nat) (values : List Value) : Option FormFault :=
  match values with
  | left :: _ =>
    if left.first.oldCommand?.isSome || level = 0 then none else some .missingComma
  | [] => none

def blameGenerator (values : List Value) : Option FormFault :=
  match values with
  | before :: _ =>
    let isPlain : Phrase → Bool := fun p => match p with
      | .named | .takenOver => false
      | _ => true
    if before.phrases.countP isPlain ≤ 1 then none else some .bareGenerator
  | [] => none

def blameOrder (values : List Value) : Option FormFault :=
  match values with
  | before :: _ =>
    let isTakenOver : Phrase → Bool := fun p => match p with
      | .takenOver => true
      | _ => false
    some (.argumentOrder (before.phrases.any isTakenOver))
  | [] => none

/-- The fault that has to do with what the first phrase among some values is called. -/
def blameLabel (cause : String → FormFault) (values : List Value) : Option FormFault :=
  (Value.phrasesOf values).head?.map fun phrase => cause phrase.label

def blameConstant (values : List Value) : Option FormFault :=
  match Value.tokensOf values with
  | .name word :: _ => some (.unassignable word)
  | _ => none

def blames : Rule → List Alternative
  | blameExpression => [
    ⟨[.notAhead [[.name, .text], [.softWord]], .rule disjunction, .rule quietExpression],
      some blameNeighbours⟩,
    fault [.rule disjunction, .word "if", .rule disjunction,
      .notAhead [[.word "else"], [.sign ":"]]] .missingElse]
  | blameCommand => [
    ⟨[.name, .notAhead [[.sign "("]], .rule starExpressions], some fun _ values =>
      match values with
      | .token (.name word) :: _ => (Phrase.name word).oldCommand?.map .missingCall
      | _ => none⟩]
  | blameNaming => [
    ⟨[.rule expression, .sign ":=", .rule expression], some fun _ => blameLabel .namingOf⟩,
    fault [.name, .sign "=", .rule bitOr, .notAhead [[.sign "="], [.sign ":="]]] .assignment,
    ⟨[.notAhead [[.rule tuple], [.rule generator], [.word "True"], [.word "None"], [.word "False"]],
      .rule bitOr, .sign "=", .rule bitOr, .notAhead [[.sign "="], [.sign ":="]]],
      some fun _ => blameLabel .assignmentTo⟩]
  | blameGroup => [
    fault [.sign "(", .rule starred, .sign ")"] (.starred false),
    fault [.sign "(", .sign "**", .rule expression, .sign ")"] (.starred true)]
  | blameEntries => [
    ⟨[.commas [[.rule entry]], .sign ",", .rule blameEntry], none⟩,
    fault [.rule expression, .sign ":", .sign "*", .rule bitOr] .starredValue,
    fault [.rule expression, .sign ":", .ahead [[.sign "\x7d"], [.sign ","]]] .missingValue]
  | blameEntry => [
    fault [.rule expression, .notAhead [[.sign ":"]]] .missingColon,
    fault [.rule expression, .sign ":", .sign "*", .rule bitOr] .starredValue,
    fault [.rule expression, .sign ":", .ahead [[.sign "\x7d"], [.sign ","]]] .missingValue]
  | blameTarget => [
    ⟨[.optional [[.word "async"]], .word "for", .rule starExpressions], some fun _ values =>
      (Value.phrasesOf values).head?.bind fun phrase =>
        phrase.misfit?.map fun misfit => .unassignable misfit.label⟩]
  | blameCollection => [
    fault [.oneOf [[.sign "("], [.sign "\x7b"]], .rule starred, .rule clauses]
      (.starredCollection false),
    fault [.sign "\x7b", .rule starNamedExpression, .sign ",", .rule starNamedExpressions,
      .rule clauses] .bareCollection,
    fault [.sign "\x7b", .rule starNamedExpression, .sign ",", .rule clauses] .bareCollection]
  | blameEntryCollection => [
    fault [.sign "\x7b", .sign "**", .rule bitOr, .rule clauses, .sign "\x7d"]
      (.starredCollection true)]
  | blameArguments => [
    fault [.rule argumentList, .sign ",", .sign "*"] .starOrder,
    fault [.rule expression, .rule clauses, .sign ",",
      .optional [[.rule argumentList], [.rule expression, .rule clauses]]] .bareGenerator,
    fault [.name, .sign "=", .rule expression, .rule clauses] .assignment,
    ⟨[.rule argumentList, .rule clauses], some fun _ => blameGenerator⟩,
    fault [.rule argumentList, .sign ",", .rule expression, .rule clauses] .bareGenerator,
    ⟨[.rule argumentList, .sign ",", .rule argumentList], some fun _ => blameOrder⟩]
  | blameNamed => [
    ⟨[.oneOf [[.word "True"], [.word "False"], [.word "None"]], .sign "="],
      some fun _ => blameConstant⟩,
    fault [.name, .sign "=", .rule expression, .rule clauses] .assignment,
    fault [.notAhead [[.name, .sign "="]], .rule expression, .sign "="] .assignmentInCall]
  | blameParameters => [
    parameterFault [.many [[.rule plainParameter]],
      .oneOf [[.rule slashDefault], [.several [[.rule defaultParameter]]]], .rule plainParameter]
      .order,
    parameterFault [.many [[.rule plainParameter]], .sign "(", .commas [[.name]],
      .optional [[.sign ","]], .sign ")"] .bracketed,
    parameterFault [.sign "/", .sign ","] .leadingSlash,
    parameterFault [.oneOf [[.rule slashPlain], [.rule slashDefault]], .many [[.rule anyParameter]],
      .sign "/"] .secondSlash,
    parameterFault [.optional [[.rule slashPlain], [.rule slashDefault]],
      .many [[.rule anyParameter]], .sign "*", .oneOf [[.sign ","], [.rule plainParameter]],
      .many [[.rule anyParameter]], .sign "/"] .lateSlash,
    parameterFault [.several [[.rule anyParameter]], .sign "/", .sign "*"] .missingComma]
  | blameStarParameters => [
    parameterFault [.sign "*",
      .oneOf [[.sign ":"], [.sign ",", .oneOf [[.sign ":"], [.sign "**"]]]]] .bareStar,
    parameterFault [.sign "*", .name, .sign "="] .starDefault,
    parameterFault [.sign "*", .oneOf [[.rule plainParameter], [.sign ","]],
      .many [[.rule anyParameter]], .sign "*", .oneOf [[.rule plainParameter], [.sign ","]]]
      .secondStar]
  | blameRestParameter => [
    parameterFault [.sign "**", .name, .sign "="] .restDefault,
    parameterFault [.sign "**", .name, .sign ",", .name] .behindRest,
    parameterFault [.sign "**", .name, .sign ",", .oneOf [[.sign "*"], [.sign "**"], [.sign "/"]]]
      .behindRest]
  | blameDefault => [
    parameterFault [.sign "=", .ahead [[.sign ")"], [.sign ","]]] .missingDefault]
  | _ => []

def isBlame (rule : Rule) : Bool :=
  ! rule.blames.isEmpty

def body (rule : Rule) : Body :=
  if rule.isBlame then .choice rule.blames else rule.plainBody

/-- Whether what a rule reads at a place is kept.  What was read without blame then stands also where
blame is asked for. -/
def isKept : Rule → Bool
  | expression | starExpression | disjunction | conjunction | inversion | factor | awaited | texts
  | arguments | target | targetAtom | blameNaming
  | bitOr | bitXor | bitAnd | shift | sum | term | primary | targetBase => true
  | _ => false

def atomValue : Value → Value
  | .token (.name word) =>
    .phrase (if ["True", "False", "None"].contains word then .constant word else .name word)
  | .token (.number imaginary) => .phrase (.number imaginary)
  | .token (.sign _) => .phrase (.constant "ellipsis")
  | value => value.single

def isTemplate : Token → Bool
  | .text mark _ => mark.template
  | _ => false

/-- The value of a rule from the values of its parts.  A part that stands alone is the value. -/
def build (rule : Rule) (values : List Value) : Value :=
  match rule, values with
  | atom, [value] => atomValue value
  | texts, [value] => .phrase (if value.tokens.any isTemplate then .template else .text)
  | group, [_, value, _] => value.single
  | tuple, _ => .phrase (.tuple (Value.phrasesOf values))
  | set, _ => .phrase (.set (Value.phrasesOf values))
  | dictionary, _ => .phrase (.dictionary (Value.phrasesOf values))
  | pair, [key, _, value] => .phrase (.pair key.first value.first)
  | entry, [_, _] => .phrase .takenOver
  | setCollection, _ => .phrase (.other "set comprehension")
  | generator, _ => .phrase (.other "generator expression")
  | dictionaryCollection, _ => .phrase (.other "dict comprehension")
  | function, _ => .phrase (.other "lambda")
  | yielding, _ => .phrase (.other "yield expression")
  | naming, _ => .phrase (.other "named expression")
  | starExpression, [_, value] | starNamedExpression, [_, value] | starred, [_, value] =>
    .phrase (.starred value.first)
  | namedOrStarred, [_, _, _] | namedOrTakenOver, [_, _, _] => .phrase .named
  | namedOrTakenOver, [_, _] => .phrase .takenOver
  | expressions, _ :: _ :: _ | starExpressions, _ :: _ :: _ =>
    .phrase (.tuple (Value.phrasesOf values))
  | expression, _ :: _ :: _ | quietExpression, _ :: _ :: _ =>
    .phrase (.other "conditional expression")
  | disjunction, _ :: _ :: _ | conjunction, _ :: _ :: _ | inversion, _ :: _ :: _ =>
    .phrase (.other "expression")
  | comparison, [left, compared] =>
    .phrase (.compared left.first (compared.tokens.headD .finish))
  | factor, [.token (.sign sign), operand] => .phrase (.signed sign operand.first)
  | power, [left, _, right] => .phrase (.joined "**" left.first right.first)
  | awaited, [_, _] => .phrase (.other "await expression")
  | primary, [.phrase (.name "set"), _, .group [], _] => .phrase .emptySet
  | primary, [_, _, _] => .phrase (.other "attribute")
  | primary, _ :: _ :: _ => .phrase (.other "function call")
  | bitOr, [left, .token (.sign operator), right] | bitXor, [left, .token (.sign operator), right]
  | bitAnd, [left, .token (.sign operator), right] | shift, [left, .token (.sign operator), right]
  | sum, [left, .token (.sign operator), right] | term, [left, .token (.sign operator), right] =>
    .phrase (.joined operator left.first right.first)
  | _, [value] => value
  | _, values => .group values

end Rule

end SourceCensus.Literal
