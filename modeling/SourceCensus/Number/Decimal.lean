import SourceCensus.Number.Binary64
import SourceCensus.Text.Integer
import SourceCensus.Text.Search

/-! # Decimal text of binary64 numbers -/

namespace SourceCensus.Number

structure Decimal where
  digits : Nat
  exponent : Int
  deriving DecidableEq, Repr

def decimalDigits (n : Nat) : List Char :=
  Nat.toDigits 10 n

namespace Decimal

def scaled (num den : Nat) (exponent : Int) : Nat × Nat :=
  if exponent < 0 then (num * Nat.pow 10 exponent.natAbs, den)
  else (num, den * Nat.pow 10 exponent.natAbs)

def ratio (d : Decimal) : Nat × Nat :=
  if d.exponent < 0 then (d.digits, Nat.pow 10 d.exponent.natAbs)
  else (d.digits * Nat.pow 10 d.exponent.natAbs, 1)

/-- The magnitude nearest to a decimal; none when it is too large.  The place of the point among the
digits tells it far out, where the fraction would be huge: no magnitude but zero is below
`10 ^ (-400)`, and none is above `10 ^ 400`. -/
def toMagnitude? (d : Decimal) : Option Magnitude :=
  let point := (decimalDigits d.digits).length + d.exponent
  if d.digits = 0 || point < -400 then some ⟨0, Magnitude.minExponent⟩
  else if 400 < point then none
  else
    let (num, den) := d.ratio
    Magnitude.ofRatio? num den

def leadingExponent (num den : Nat) : Int :=
  if den ≤ num then (decimalDigits (num / den)).length - 1
  else - ((decimalDigits ((den + num - 1) / num - 1)).length : Int)

def dropZeros : Nat → Decimal → Decimal
  | 0, d => d
  | fuel + 1, d =>
    if d.digits ≠ 0 && d.digits % 10 == 0 then dropZeros fuel ⟨d.digits / 10, d.exponent + 1⟩ else d

/-- Of the decimals on the grid of `10 ^ exponent` next to a magnitude, the nearest that reads back
as that magnitude; half way between two, the even one. -/
def onGrid? (m : Magnitude) (exponent : Int) : Option Decimal :=
  let (num, den) := m.ratio
  let (n, d) := scaled num den exponent
  let lower : Decimal := ⟨n / d, exponent⟩
  let upper : Decimal := ⟨n / d + 1, exponent⟩
  let reads (c : Decimal) : Bool := c.toMagnitude? == some m
  let lowerFirst := 2 * (n % d) < d || (2 * (n % d) == d && n / d % 2 == 0)
  let candidates := if lowerFirst then [lower, upper] else [upper, lower]
  candidates.find? reads

/-- The decimal of fewest digits that reads back as a magnitude; 17 digits always do. -/
def shortest (m : Magnitude) : Decimal :=
  if m.significand = 0 then ⟨0, 0⟩
  else
    let (num, den) := m.ratio
    let leading := leadingExponent num den
    match (List.range 17).findSome? fun (count : Nat) => onGrid? m (leading - count) with
    | some d => dropZeros 17 d
    | none => ⟨num / den, 0⟩

/-- Positional text of the digits with the point after the first `point` of them; at least one digit
stands on either side. -/
def positional (digits : List Char) (point : Int) : List Char :=
  if point ≤ 0 then '0' :: '.' :: (List.replicate point.natAbs '0' ++ digits)
  else
    let whole := digits.take point.natAbs
    let fraction := digits.drop point.natAbs
    whole ++ List.replicate (point.natAbs - digits.length) '0' ++ '.' ::
      (if fraction.isEmpty then ['0'] else fraction)

/-- Scientific text of the digits, the point after the first of them: the exponent has a sign and at
least two digits. -/
def scientific (digits : List Char) (exponent : Int) : List Char :=
  let mantissa := match digits with
    | [] => []
    | [d] => [d]
    | d :: more => d :: '.' :: more
  let size := decimalDigits exponent.natAbs
  mantissa ++ 'e' :: (if exponent < 0 then '-' else '+') ::
    (List.replicate (2 - size.length) '0' ++ size)

def text (d : Decimal) : List Char :=
  let digits := decimalDigits d.digits
  let point := digits.length + d.exponent
  if -4 < point && point ≤ 16 then positional digits point else scientific digits (point - 1)

end Decimal

namespace Binary64

def signText (negative : Bool) : List Char :=
  if negative then ['-'] else []

def text (x : Binary64) : String :=
  match x with
  | .finite negative magnitude =>
    String.ofList (signText negative ++ (Decimal.shortest magnitude).text)
  | .infinite negative => String.ofList (signText negative) ++ "inf"
  | .nan => "nan"

/-- The number with one place after the point, rounded to nearest and ties to even. -/
def fixedText (x : Binary64) : String :=
  match x with
  | .finite negative magnitude =>
    let (num, den) := magnitude.ratio
    let tenths := roundDiv (num * 10) den
    String.ofList
      (signText negative ++ decimalDigits (tenths / 10) ++ '.' :: decimalDigits (tenths % 10))
  | x => x.text

def digits? (s : List Char) : Option Nat :=
  if s.all Char.isDigit then some (s.foldl (fun n c => n * 10 + (c.toNat - '0'.toNat)) 0) else none

/-- A text and whether a minus sign stood before it. -/
def unsigned (s : List Char) : Bool × List Char :=
  match s with
  | '-' :: rest => (true, rest)
  | '+' :: rest => (false, rest)
  | rest => (false, rest)

/-- The decimal that a text without a sign spells: digits with or without a point, and an exponent
or none. -/
def decimal? (s : List Char) : Option Decimal :=
  let isMark (c : Char) : Bool := c == 'e' || c == 'E'
  let mantissa := s.takeWhile (! isMark ·)
  let whole := mantissa.takeWhile (· != '.')
  let fraction := (mantissa.dropWhile (· != '.')).drop 1
  if (whole ++ fraction).isEmpty then none
  else
    (digits? (whole ++ fraction)).bind fun digits =>
      match s.dropWhile (! isMark ·) with
      | [] => some ⟨digits, - (fraction.length : Int)⟩
      | _ :: tail =>
        let (negative, size) := unsigned tail
        if size.isEmpty then none
        else (digits? size).map fun (n : Nat) =>
          ⟨digits, (if negative then - (n : Int) else n) - fraction.length⟩

/-- A text with the digits of all scripts as those of ASCII and without the underscores between two
digits; none if an underscore stands elsewhere.  `behind` says whether a digit came right before. -/
def plainDigits? (behind : Bool) : List Char → Option (List Char)
  | [] => some []
  | '_' :: rest =>
    if behind && rest.head?.any fun d => (Text.digitValue? d).isSome then plainDigits? false rest
    else none
  | c :: rest =>
    match Text.digitValue? c with
    | some d => (plainDigits? true rest).map (Nat.digitChar d :: ·)
    | none => (plainDigits? false rest).map (c :: ·)

/-- The number that a text without padding spells: a decimal, or a word for infinity or for no
number. -/
def ofPlain? (s : List Char) : Option Binary64 :=
  let (negative, rest) := unsigned s
  let word := String.ofList (rest.map Char.toLower)
  if word = "inf" || word = "infinity" then some (.infinite negative)
  else if word = "nan" then some .nan
  else
    (decimal? rest).map fun d =>
      match d.toMagnitude? with
      | some magnitude => .finite negative magnitude
      | none => .infinite negative

def ofText? (s : String) : Option Binary64 :=
  (plainDigits? false (Text.unpad s.toList)).bind ofPlain?

end Binary64

end SourceCensus.Number
