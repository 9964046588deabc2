/-! # Escapes in quoted texts -/

namespace SourceCensus.Literal

inductive EscapeCause where
  | short (mark : Char)
  | noCharacter
  | noName
  | unknownName
  deriving DecidableEq, Repr

/-- Why the escapes of a quoted text cannot be read. -/
inductive EscapeFault where
  | byte (position : Nat)
  | character (first last : Nat) (cause : EscapeCause)
  deriving DecidableEq, Repr

def escapeDigits (mark : Char) : Nat :=
  if mark = 'x' then 2 else if mark = 'u' then 4 else if mark = 'U' then 8 else 0

def EscapeCause.message : EscapeCause → String
  | short mark =>
    "truncated \\" ++ mark.toString ++ String.ofList (List.replicate (escapeDigits mark) 'X') ++
      " escape"
  | noCharacter => "illegal Unicode character"
  | noName => "malformed \\N character escape"
  | unknownName => "unknown Unicode character name"

def EscapeFault.message : EscapeFault → String
  | byte position => "(value error) invalid \\x escape at position " ++ toString position
  | character first last cause =>
    "(unicode error) 'unicodeescape' codec can't decode bytes in position " ++ toString first ++
      "-" ++ toString last ++ ": " ++ cause.message

def isHexDigit (c : Char) : Bool :=
  c.isDigit || ('a' ≤ c && c ≤ 'f') || ('A' ≤ c && c ≤ 'F')

def hexValue (c : Char) : Nat :=
  if c.isDigit then c.toNat - '0'.toNat else c.toLower.toNat - 'a'.toNat + 10

def escapedWidth (c : Char) : Nat :=
  if c.toNat < 0x80 then 1 else 10

/-- The places that a text counts for.  A backslash before a character outside of ASCII counts as the
six characters of its own escape. -/
def escapedLength : List Char → Nat
  | [] => 0
  | c :: rest =>
    let width := if c = '\\' && rest.head?.any (0x80 ≤ ·.toNat) then 6 else escapedWidth c
    width + escapedLength rest

def isNameLetter (c : Char) : Bool :=
  c.isAlphanum || c = ' ' || c = '-'

def nameCause? (rest : List Char) : Option (Nat × EscapeCause) :=
  match rest with
  | '\x7b' :: more =>
    let name := more.takeWhile (· != '\x7d')
    if name.length = more.length then some (3 + escapedLength name, .noName)
    else if name.isEmpty then some (3, .noName)
    else if name.all isNameLetter then none
    else some (4 + escapedLength name, .unknownName)
  | _ => some (2, .noName)

/-- What is wrong with the escape that has `mark` behind its backslash, if anything is, and how many
places belong to it.  The text behind the mark is given. -/
def escapeCause? (mark : Char) (rest : List Char) : Option (Nat × EscapeCause) :=
  let digits := (rest.takeWhile isHexDigit).take (escapeDigits mark)
  if digits.length < escapeDigits mark then some (2 + digits.length, .short mark)
  else if 0x110000 ≤ digits.foldl (fun n c => n * 16 + hexValue c) 0 then some (10, .noCharacter)
  else if mark = 'N' then nameCause? rest
  else none

def characterFault? (position : Nat) : List Char → Option EscapeFault
  | [] => none
  | [_] => none
  | '\\' :: mark :: rest =>
    if 0x80 ≤ mark.toNat then characterFault? (position + 16) rest
    else
      match escapeCause? mark rest with
      | some (places, cause) => some (.character position (position + places - 1) cause)
      | none => characterFault? (position + 2) rest
  | c :: d :: rest => characterFault? (position + escapedWidth c) (d :: rest)

def byteFault? (position : Nat) : List Char → Option EscapeFault
  | [] => none
  | [_] => none
  | '\\' :: mark :: rest =>
    if mark = 'x' && (rest.takeWhile isHexDigit).length < 2 then some (.byte position)
    else byteFault? (position + 2) rest
  | _ :: d :: rest => byteFault? (position + 1) (d :: rest)

end SourceCensus.Literal
