import SourceCensus.Number.Decimal
import SourceCensus.Text.Integer
import SourceCensus.Text.Quoted

/-! # JSON documents -/

namespace SourceCensus.Report

/-- A JSON document. -/
inductive Document where
  | integer (value : Int)
  | real (value : Number.Binary64)
  | text (value : List Char)
  | list (items : List Document)
  | object (fields : List (String × Document))

def escapeUnit (unit : Nat) : List Char :=
  '\\' :: 'u' :: Text.hexadecimal 4 unit

def escapeChar (c : Char) : List Char :=
  let n := c.toNat
  if c = '"' || c = '\\' then ['\\', c]
  else if c = '\n' then ['\\', 'n']
  else if c = '\r' then ['\\', 'r']
  else if c = '\t' then ['\\', 't']
  else if c = '\x0c' then ['\\', 'f']
  else if c = '\x08' then ['\\', 'b']
  else if 0x20 ≤ n && n < 0x7F then [c]
  else if n < 0x10000 then escapeUnit n
  else escapeUnit (0xD800 + (n - 0x10000) / 0x400) ++ escapeUnit (0xDC00 + (n - 0x10000) % 0x400)

def jsonString (s : List Char) : List Char :=
  '"' :: s.flatMap escapeChar ++ ['"']

/-- A number as JSON: infinities and the lack of a number have names. -/
def jsonReal (x : Number.Binary64) : String :=
  match x with
  | .infinite negative => if negative then "-Infinity" else "Infinity"
  | .nan => "NaN"
  | x => x.text

def newline (level : Nat) : List Char :=
  '\n' :: List.replicate (2 * level) ' '

def bracketed (opener closer : Char) (level : Nat) (items : List (List Char)) : List Char :=
  if items.isEmpty then [opener, closer]
  else
    let separated := (items.map (newline (level + 1) ++ ·)).intersperse [',']
    opener :: separated.flatten ++ newline level ++ [closer]

namespace Document

mutual

def render (level : Nat) : Document → Except Text.DigitFault (List Char)
  | .integer value => return (← Text.writeInteger value).toList
  | .real value => return (jsonReal value).toList
  | .text value => return jsonString value
  | .list items => return bracketed '[' ']' level (← renderItems (level + 1) items)
  | .object fields => do
    let sorted := (← renderFields (level + 1) fields).mergeSort fun a b => decide (a.1 ≤ b.1)
    let fieldTexts := sorted.map fun (key, value) => jsonString key.toList ++ ':' :: ' ' :: value
    return bracketed '\x7b' '\x7d' level fieldTexts

def renderItems (level : Nat) : List Document → Except Text.DigitFault (List (List Char))
  | [] => return []
  | item :: rest => return (← render level item) :: (← renderItems level rest)

def renderFields (level : Nat) :
    List (String × Document) → Except Text.DigitFault (List (String × List Char))
  | [] => return []
  | (key, value) :: rest => return (key, ← render level value) :: (← renderFields level rest)

end

def format (d : Document) : Except Text.DigitFault String :=
  return String.ofList (← d.render 0)

end Document

end SourceCensus.Report
