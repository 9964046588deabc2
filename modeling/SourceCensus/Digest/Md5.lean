/-! # MD5 -/

namespace SourceCensus.Digest.Md5

structure Words where
  a : UInt32
  b : UInt32
  c : UInt32
  d : UInt32
  deriving DecidableEq, Repr

def start : Words := ⟨0x67452301, 0xEFCDAB89, 0x98BADCFE, 0x10325476⟩

def constants : Array UInt32 := #[
  0xD76AA478, 0xE8C7B756, 0x242070DB, 0xC1BDCEEE, 0xF57C0FAF, 0x4787C62A, 0xA8304613, 0xFD469501,
  0x698098D8, 0x8B44F7AF, 0xFFFF5BB1, 0x895CD7BE, 0x6B901122, 0xFD987193, 0xA679438E, 0x49B40821,
  0xF61E2562, 0xC040B340, 0x265E5A51, 0xE9B6C7AA, 0xD62F105D, 0x02441453, 0xD8A1E681, 0xE7D3FBC8,
  0x21E1CDE6, 0xC33707D6, 0xF4D50D87, 0x455A14ED, 0xA9E3E905, 0xFCEFA3F8, 0x676F02D9, 0x8D2A4C8A,
  0xFFFA3942, 0x8771F681, 0x6D9D6122, 0xFDE5380C, 0xA4BEEA44, 0x4BDECFA9, 0xF6BB4B60, 0xBEBFBC70,
  0x289B7EC6, 0xEAA127FA, 0xD4EF3085, 0x04881D05, 0xD9D4D039, 0xE6DB99E5, 0x1FA27CF8, 0xC4AC5665,
  0xF4292244, 0x432AFF97, 0xAB9423A7, 0xFC93A039, 0x655B59C3, 0x8F0CCC92, 0xFFEFF47D, 0x85845DD1,
  0x6FA87E4F, 0xFE2CE6E0, 0xA3014314, 0x4E0811A1, 0xF7537E82, 0xBD3AF235, 0x2AD7D2BB, 0xEB86D391]

def rotations : Array UInt32 := #[7, 12, 17, 22, 5, 9, 14, 20, 4, 11, 16, 23, 6, 10, 15, 21]

def rotateLeft (word amount : UInt32) : UInt32 :=
  (word <<< amount) ||| (word >>> (32 - amount))

def mix (w : Words) (step : Nat) : UInt32 × Nat :=
  if step < 16 then ((w.b &&& w.c) ||| (~~~ w.b &&& w.d), step)
  else if step < 32 then ((w.d &&& w.b) ||| (~~~ w.d &&& w.c), (5 * step + 1) % 16)
  else if step < 48 then (w.b ^^^ w.c ^^^ w.d, (3 * step + 5) % 16)
  else (w.c ^^^ (w.b ||| ~~~ w.d), (7 * step) % 16)

def turn (block : Array UInt32) (w : Words) (step : Nat) : Words :=
  let (mixed, place) := mix w step
  let sum := mixed + w.a + constants.getD step 0 + block.getD place 0
  ⟨w.d, w.b + rotateLeft sum (rotations.getD (step / 16 * 4 + step % 4) 0), w.b, w.c⟩

def absorb (w : Words) (block : Array UInt32) : Words :=
  let v := (List.range 64).foldl (turn block) w
  ⟨w.a + v.a, w.b + v.b, w.c + v.c, w.d + v.d⟩

def lowBytes (count n : Nat) : List UInt8 :=
  (List.range count).map fun place => (n >>> (8 * place)).toUInt8

/-- The message with its padding: a bit, zeros up to 56 bytes of a block, and the length in bits. -/
def padded (bytes : List UInt8) : List UInt8 :=
  let length := bytes.length
  bytes ++ 0x80 :: List.replicate ((119 - length % 64) % 64) 0 ++ lowBytes 8 (length * 8)

/-- The words of a byte sequence, four bytes each, lowest first. -/
def toWords : List UInt8 → List UInt32
  | p :: q :: r :: s :: rest =>
    (p.toUInt32 ||| (q.toUInt32 <<< 8) ||| (r.toUInt32 <<< 16) ||| (s.toUInt32 <<< 24)) ::
      toWords rest
  | _ => []

/-- Takes in the first `count` blocks of sixteen words. -/
def absorbAll : Nat → Words → List UInt32 → Words
  | 0, w, _ => w
  | count + 1, w, words => absorbAll count (absorb w (words.take 16).toArray) (words.drop 16)

def digest (bytes : List UInt8) : List UInt8 :=
  let words := toWords (padded bytes)
  let w := absorbAll (words.length / 16) start words
  [w.a, w.b, w.c, w.d].flatMap fun word => lowBytes 4 word.toNat

end SourceCensus.Digest.Md5
