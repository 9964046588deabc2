/-! # Scanner states -/

namespace SourceCensus.Scan

inductive Quote where
  | double
  | single
  deriving DecidableEq, Repr

def Quote.mark : Quote → Char
  | .double => '"'
  | .single => '\''

inductive Literal where
  | plain (quote : Quote)
  | triple (quote : Quote)
  deriving DecidableEq, Repr

def Quote.tripled (quote : Quote) : List Char :=
  [quote.mark, quote.mark, quote.mark]

/-- Where the scanner stands. -/
inductive State where
  | normal
  | literal (delimiter : Literal)
  | comment (depth : Int)
  deriving DecidableEq, Repr

inductive LineKind where
  | blank
  | comment
  | code
  deriving DecidableEq, Repr

def LineKind.label : LineKind → String
  | .blank => "blank"
  | .comment => "comment"
  | .code => "code"

def LineKind.ofLabel? (label : String) : Option LineKind :=
  [.blank, .comment, .code].find? fun kind => kind.label == label

namespace State

def inComment : State → Bool
  | .comment _ => true
  | _ => false

def inLiteral : State → Bool
  | .literal _ => true
  | _ => false

def atLineEnd : State → State
  | .literal (.plain _) => .normal
  | state => state

end State

end SourceCensus.Scan
