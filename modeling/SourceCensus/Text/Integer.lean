import SourceCensus.Text.Blank

/-! # Integers in text -/

namespace SourceCensus.Text

def zeros : List Nat := [
  0x0030, 0x0660, 0x06F0, 0x07C0, 0x0966, 0x09E6, 0x0A66, 0x0AE6, 0x0B66, 0x0BE6, 0x0C66, 0x0CE6,
  0x0D66, 0x0DE6, 0x0E50, 0x0ED0, 0x0F20, 0x1040, 0x1090, 0x17E0, 0x1810, 0x1946, 0x19D0, 0x1A80,
  0x1A90, 0x1B50, 0x1BB0, 0x1C40, 0x1C50, 0xA620, 0xA8D0, 0xA900, 0xA9D0, 0xA9F0, 0xAA50, 0xABF0,
  0xFF10, 0x104A0, 0x10D30, 0x11066, 0x110F0, 0x11136, 0x111D0, 0x112F0, 0x11450, 0x114D0,
  0x11650, 0x116C0, 0x11730, 0x118E0, 0x11950, 0x11C50, 0x11D50, 0x11DA0, 0x16A60, 0x16AC0,
  0x16B50, 0x1D7CE, 0x1D7D8, 0x1D7E2, 0x1D7EC, 0x1D7F6, 0x1E140, 0x1E2F0, 0x1E950, 0x1FBF0]

def digitValue? (c : Char) : Option Nat :=
  (zeros.find? fun start => start ≤ c.toNat && c.toNat ≤ start + 9).map (c.toNat - ·)

def digitLimit : Nat := 4300

/-- Why digits cannot be read or written. -/
inductive DigitFault where
  | noDigits
  /-- There are too many digits to read. -/
  | unreadable (count : Nat)
  /-- There are too many digits to write. -/
  | unwritable
  deriving DecidableEq, Repr

namespace DigitFault

def limitMessage (remark : String) : String :=
  "Exceeds the limit (" ++ toString digitLimit ++ " digits) for integer string conversion" ++
    remark ++ "; use sys.set_int_max_str_digits() to increase the limit"

def message : DigitFault → String
  | noDigits => "invalid literal for int() with base 10: ''"
  | unreadable count => limitMessage (": value has " ++ toString count ++ " digits")
  | unwritable => limitMessage ""

end DigitFault

/-- Digits with single underscores between them.  `separable` says whether an underscore may come
next, and `digits` are those read so far, last first. -/
def digitsFrom (separable : Bool) (digits : List Nat) : List Char → Option (List Nat)
  | [] => if separable then some digits.reverse else none
  | '_' :: rest => if separable then digitsFrom false digits rest else none
  | c :: rest => (digitValue? c).bind fun d => digitsFrom true (d :: digits) rest

def ofDigits (digits : List Nat) : Nat :=
  digits.foldl (fun n d => n * 10 + d) 0

def readDigits (s : List Char) : Except DigitFault Nat :=
  if s.isEmpty then .error .noDigits
  else if digitLimit < s.length then .error (.unreadable s.length)
  else .ok (ofDigits (s.filterMap digitValue?))

def writeInteger (n : Int) : Except DigitFault String :=
  if digitLimit < (toString n.natAbs).length then .error .unwritable else .ok (toString n)

def natural? (s : List Char) : Option Nat :=
  (digitsFrom false [] s).bind fun digits =>
    if digits.length ≤ digitLimit then some (ofDigits digits) else none

def isPadding (c : Char) : Bool :=
  isBlank c && ! (0x1C ≤ c.toNat && c.toNat ≤ 0x1F)

def unpad (s : List Char) : List Char :=
  ((s.dropWhile isPadding).reverse.dropWhile isPadding).reverse

def integer? (s : List Char) : Option Int :=
  match unpad s with
  | '+' :: rest => (natural? rest).map Int.ofNat
  | '-' :: rest => (natural? rest).map fun n => - Int.ofNat n
  | rest => (natural? rest).map Int.ofNat

end SourceCensus.Text
