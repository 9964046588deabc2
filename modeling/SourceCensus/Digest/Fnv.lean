import SourceCensus.Text.Quoted
import SourceCensus.Text.Utf8

/-! # FNV-1a -/

namespace SourceCensus.Digest

def offsetBasis : UInt64 := 0xCBF29CE484222325

def prime : UInt64 := 0x100000001B3

def stir (value byte : UInt64) : UInt64 :=
  (value ^^^ byte) * prime

def hashFrom (seed : UInt64) (bytes : List UInt8) : UInt64 :=
  bytes.foldl (fun value byte => stir value byte.toUInt64) seed

def hashLine (text : List Char) : UInt64 :=
  hashFrom offsetBasis (Text.Utf8.encode text)

/-- The eight bytes of a word, lowest first. -/
def littleEndian (word : UInt64) : List UInt8 :=
  (List.range 8).map fun place => (word >>> (8 * place).toUInt64).toUInt8

def separator : UInt64 := 0xFF

/-- The hash of a window, one more line hash taken in. -/
def takeIn (value lineHash : UInt64) : UInt64 :=
  stir (hashFrom value (littleEndian lineHash)) separator

def combine (lineHashes : List UInt64) : UInt64 :=
  lineHashes.foldl takeIn offsetBasis

def hashWindow (texts : List (List Char)) : UInt64 :=
  combine (texts.map hashLine)

inductive WordFault where
  | tooLarge
  | negative
  deriving DecidableEq, Repr

def WordFault.message : WordFault → String
  | .tooLarge => "int too big to convert"
  | .negative => "can't convert negative int to unsigned"

def word? (n : Int) : Except WordFault UInt64 :=
  if n < 0 then .error .negative
  else if n < 0x10000000000000000 then .ok (UInt64.ofNat n.toNat)
  else .error .tooLarge

/-- The hash of a window, from line hashes given as integers. -/
def combine? (lineHashes : List Int) : Except WordFault UInt64 :=
  combine <$> lineHashes.mapM word?

/-- The hash of bytes from a seed that is any integer.  No bytes leave the seed as it is; a byte
takes it modulo `2 ^ 64`. -/
def hashFromInt (seed : Int) (bytes : List UInt8) : Int :=
  if bytes.isEmpty then seed else (hashFrom (UInt64.ofInt seed) bytes).toNat

def hashText (hash : Int) : String :=
  String.ofList <|
    if hash < 0 then '-' :: Text.hexadecimal 15 hash.natAbs else Text.hexadecimal 16 hash.natAbs

@[simp] theorem hashFrom_cons (seed : UInt64) (byte : UInt8) (bytes : List UInt8) :
    hashFrom seed (byte :: bytes) = hashFrom (stir seed byte.toUInt64) bytes := rfl

theorem hashFrom_append (seed : UInt64) (bytes more : List UInt8) :
    hashFrom seed (bytes ++ more) = hashFrom (hashFrom seed bytes) more := by
  simp [hashFrom]

theorem combine_append (hashes more : List UInt64) :
    combine (hashes ++ more) = more.foldl takeIn (combine hashes) := by
  simp [combine]

end SourceCensus.Digest
