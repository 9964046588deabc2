import SourceCensus.Text.Quoted

/-! # UTF-8 -/

namespace SourceCensus.Text.Utf8

inductive Flaw where
  | invalidStart
  | unexpectedEnd
  /-- A byte inside a character is none that may stand there. -/
  | invalidContinuation
  deriving DecidableEq, Repr

/-- The first place where bytes are not UTF-8: `span` are the faulty bytes, the first of them at
`position`. -/
structure Fault where
  position : Nat
  span : List UInt8
  flaw : Flaw
  deriving DecidableEq, Repr

def Flaw.wording : Flaw → String
  | .invalidStart => "invalid start byte"
  | .unexpectedEnd => "unexpected end of data"
  | .invalidContinuation => "invalid continuation byte"

/-- The wording of a fault: a single byte is named by its value, several by their positions. -/
def Fault.message (fault : Fault) : String :=
  match fault.span with
  | [byte] =>
    "'utf-8' codec can't decode byte 0x" ++ String.ofList (hexadecimal 2 byte.toNat) ++
      " in position " ++ toString fault.position ++ ": " ++ fault.flaw.wording
  | span =>
    "'utf-8' codec can't decode bytes in position " ++ toString fault.position ++ "-" ++
      toString (fault.position + span.length - 1) ++ ": " ++ fault.flaw.wording

/-- The ranges in which the bytes after a lead byte must lie, with the bits that the lead byte gives
the character; none when no character starts with the byte. -/
def followers (lead : UInt8) : Option (Nat × List (Nat × Nat)) :=
  let b := lead.toNat
  if b < 0x80 then some (b, [])
  else if 0xC2 ≤ b && b ≤ 0xDF then some (b - 0xC0, [(0x80, 0xBF)])
  else if b == 0xE0 then some (0, [(0xA0, 0xBF), (0x80, 0xBF)])
  else if b == 0xED then some (0xD, [(0x80, 0x9F), (0x80, 0xBF)])
  else if 0xE1 ≤ b && b ≤ 0xEF then some (b - 0xE0, [(0x80, 0xBF), (0x80, 0xBF)])
  else if b == 0xF0 then some (0, [(0x90, 0xBF), (0x80, 0xBF), (0x80, 0xBF)])
  else if 0xF1 ≤ b && b ≤ 0xF3 then some (b - 0xF0, [(0x80, 0xBF), (0x80, 0xBF), (0x80, 0xBF)])
  else if b == 0xF4 then some (4, [(0x80, 0x8F), (0x80, 0xBF), (0x80, 0xBF)])
  else none

/-- One unit of a byte sequence: a character or a flaw, with the number of bytes after its first. -/
inductive Piece where
  | char (c : Char) (tail : Nat)
  | bad (flaw : Flaw) (tail : Nat)
  deriving DecidableEq, Repr

def readTail (taken value : Nat) : List (Nat × Nat) → List UInt8 → Piece
  | [], _ => .char (Char.ofNat value) taken
  | _ :: _, [] => .bad .unexpectedEnd taken
  | (low, high) :: ranges, b :: rest =>
    if low ≤ b.toNat && b.toNat ≤ high then
      readTail (taken + 1) (value * 64 + (b.toNat - 0x80)) ranges rest
    else .bad .invalidContinuation taken

def piece (lead : UInt8) (rest : List UInt8) : Piece :=
  match followers lead with
  | none => .bad .invalidStart 0
  | some (bits, ranges) => readTail 0 bits ranges rest

/-- Strict reading, with the characters read so far in reverse. -/
def decodeFrom (position : Nat) (done : List Char) (bytes : List UInt8) :
    Except Fault (List Char) :=
  match bytes with
  | [] => .ok done.reverse
  | lead :: rest =>
    match piece lead rest with
    | .char c tail => decodeFrom (position + 1 + tail) (c :: done) (rest.drop tail)
    | .bad flaw tail => .error ⟨position, lead :: rest.take tail, flaw⟩
termination_by bytes.length
decreasing_by
  simp only [List.length_cons, List.length_drop]
  omega

/-- The characters that the bytes encode, or the first fault. -/
def decode (bytes : List UInt8) : Except Fault (List Char) :=
  decodeFrom 0 [] bytes

/-- Lenient reading, with the characters read so far in reverse. -/
def decodeLossyFrom (done : List Char) (bytes : List UInt8) : List Char :=
  match bytes with
  | [] => done.reverse
  | lead :: rest =>
    match piece lead rest with
    | .char c tail => decodeLossyFrom (c :: done) (rest.drop tail)
    | .bad _ tail => decodeLossyFrom ('\ufffd' :: done) (rest.drop tail)
termination_by bytes.length
decreasing_by
  all_goals
    simp only [List.length_cons, List.length_drop]
    omega

/-- The characters that the bytes encode, with U+FFFD for each faulty span. -/
def decodeLossy (bytes : List UInt8) : List Char :=
  decodeLossyFrom [] bytes

def encode (s : List Char) : List UInt8 :=
  s.flatMap String.utf8EncodeChar

end SourceCensus.Text.Utf8
