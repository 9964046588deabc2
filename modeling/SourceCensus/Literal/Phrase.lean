import SourceCensus.Literal.Token

/-! # Phrases -/

namespace SourceCensus.Literal

/-- An expression. -/
inductive Phrase where
  | constant (word : String)
  | number (imaginary : Bool)
  | text
  | template
  | name (word : String)
  | emptySet
  | signed (sign : String) (operand : Phrase)
  | joined (operator : String) (left right : Phrase)
  | compared (left : Phrase) (operator : Token)
  | tuple (items : List Phrase)
  | set (items : List Phrase)
  | dictionary (entries : List Phrase)
  | pair (key value : Phrase)
  | starred (value : Phrase)
  | named
  | takenOver
  | other (label : String)

namespace Phrase

def label : Phrase → String
  | constant word => word
  | number _ | text => "literal"
  | template => "f-string expression"
  | name _ => "name"
  | emptySet => "function call"
  | signed _ _ | joined _ _ _ => "expression"
  | compared _ _ => "comparison"
  | tuple _ => "tuple"
  | set _ => "set display"
  | dictionary _ | pair _ _ => "dict literal"
  | starred _ => "starred"
  | named | takenOver => "keyword"
  | other label => label

def oldCommands : List String := ["print", "exec"]

def oldCommand? : Phrase → Option String
  | name word => if oldCommands.contains word then some word else none
  | _ => none

/-- The part of a phrase that takes no value in a place for names. -/
def misfit? : Phrase → Option Phrase
  | name _ => none
  | tuple items => misfitOf? items
  | starred value => value.misfit?
  | compared left (.name "in") => left.misfit?
  | compared _ _ => none
  | other "attribute" => none
  | phrase => some phrase
where
  /-- The first part of some phrases that takes no value. -/
  misfitOf? : List Phrase → Option Phrase
    | [] => none
    | item :: items => item.misfit?.or (misfitOf? items)

end Phrase

/-- The value of an expression, as far as literals need it. -/
inductive Worth where
  | none
  | real (signed : Bool)
  | imaginary
  | plain
  /-- A value of a kind that cannot be a member of a set. -/
  | mutable (kind : String)
  | broken (kind : String)
  deriving DecidableEq, Repr

def Worth.isTold : Worth → Bool
  | none | broken _ => false
  | _ => true

def Worth.asMember : Worth → Worth
  | mutable kind => broken kind
  | worth => worth

/-- The worth of a tuple: the first part that cannot be told, or else the first one that cannot be a
member of a set. -/
def tupleWorth (items : List Worth) : Worth :=
  (items.find? (! ·.isTold)).getD ((items.find? (! ·.asMember.isTold)).getD .plain)

/-- The worth of a set or a dictionary with the given parts: the first part that cannot be told, or
else the container itself. -/
def containerWorth (kind : String) (parts : List Worth) : Worth :=
  (parts.find? (! ·.isTold)).getD (.mutable kind)

def signedWorth (sign : String) (operand : Worth) : Worth :=
  if sign = "~" then .none
  else
    match operand with
    | .real false => .real true
    | .imaginary => .plain
    | _ => .none

/-- The worth of two operands with an operator between them: only a real and an imaginary number make
a literal. -/
def joinedWorth (operator : String) (left right : Worth) : Worth :=
  match operator, left, right with
  | "+", .real _, .imaginary | "-", .real _, .imaginary => .plain
  | _, _, _ => .none

mutual

def Phrase.worth : Phrase → Worth
  | .constant _ | .text => .plain
  | .number imaginary => if imaginary then .imaginary else .real false
  | .emptySet => .mutable "set"
  | .signed sign operand => signedWorth sign operand.worth
  | .joined operator left right => joinedWorth operator left.worth right.worth
  | .tuple items => tupleWorth (worths items)
  | .set items => containerWorth "set" ((worths items).map Worth.asMember)
  | .dictionary entries => containerWorth "dict" (entryWorths entries)
  | _ => .none

def worths : List Phrase → List Worth
  | [] => []
  | item :: items => item.worth :: worths items

/-- The worths of the parts of a dictionary: of a key, of its value, and of the key as a member. -/
def entryWorths : List Phrase → List Worth
  | [] => []
  | .pair key value :: entries =>
    key.worth :: value.worth :: key.worth.asMember :: entryWorths entries
  | _ :: entries => .none :: entryWorths entries

end

end SourceCensus.Literal
