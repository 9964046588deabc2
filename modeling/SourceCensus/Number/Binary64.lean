/-! # Binary64 numbers -/

namespace SourceCensus.Number

/-- The quotient `num / den` rounded to the nearest natural number, ties to even. -/
def roundDiv (num den : Nat) : Nat :=
  let quotient := num / den
  let twice := 2 * (num % den)
  if den < twice || (twice == den && quotient % 2 == 1) then quotient + 1 else quotient

structure Magnitude where
  significand : Nat
  exponent : Int
  deriving DecidableEq, Repr

namespace Magnitude

def minExponent : Int := -1074

def maxExponent : Int := 971

/-- The least significand of a magnitude above the least exponent: the 52nd power of two. -/
def leastNormal : Nat := 0x10000000000000

def scaled (num den : Nat) (exponent : Int) : Nat × Nat :=
  if exponent < 0 then (num * Nat.pow 2 exponent.natAbs, den)
  else (num, den * Nat.pow 2 exponent.natAbs)

def exponentOf (num den : Nat) : Int :=
  let guess : Int := (Nat.log2 num : Int) - Nat.log2 den
  let (n, d) := scaled num den guess
  let leading := if n < d then guess - 1 else guess
  if num = 0 then minExponent else max (leading - 52) minExponent

def ofRatio? (num den : Nat) : Option Magnitude :=
  let exponent := exponentOf num den
  let (n, d) := scaled num den exponent
  let significand := roundDiv n d
  let result : Magnitude :=
    if significand = 2 * leastNormal then ⟨leastNormal, exponent + 1⟩ else ⟨significand, exponent⟩
  if maxExponent < result.exponent then none else some result

def ratio (m : Magnitude) : Nat × Nat :=
  if m.exponent < 0 then (m.significand, Nat.pow 2 m.exponent.natAbs)
  else (m.significand * Nat.pow 2 m.exponent.natAbs, 1)

end Magnitude

inductive Binary64 where
  | finite (negative : Bool) (magnitude : Magnitude)
  | infinite (negative : Bool)
  | nan
  deriving DecidableEq, Repr

namespace Binary64

def zero : Binary64 := .finite false ⟨0, Magnitude.minExponent⟩

/-- The quotient of two integers, the second not zero, rounded once.  It is none when it is too
large.  A zero takes its sign from the divisor. -/
def ofQuotient? (num den : Int) : Option Binary64 :=
  (Magnitude.ofRatio? num.natAbs den.natAbs).map (.finite (decide (num < 0) != decide (den < 0)))

/-- The product with a natural number.  One that is too large is infinite. -/
def timesNat (x : Binary64) (factor : Nat) : Binary64 :=
  match x with
  | .finite negative magnitude =>
    let (num, den) := magnitude.ratio
    match Magnitude.ofRatio? (num * factor) den with
    | some product => .finite negative product
    | none => .infinite negative
  | x => x

/-- Whether the number is less than a positive natural number. -/
def below (x : Binary64) (bound : Nat) : Bool :=
  match x with
  | .finite negative magnitude =>
    let (num, den) := magnitude.ratio
    negative || num < bound * den
  | .infinite negative => negative
  | .nan => false

end Binary64

/-- Rounding moves a quotient by at most one half. -/
theorem two_mul_roundDiv_le {num den : Nat} (h : 0 < den) :
    2 * (den * roundDiv num den) ≤ 2 * num + den := by
  have hq := Nat.div_add_mod num den
  have hr := Nat.mod_lt num h
  simp only [roundDiv]
  split
  · rename_i hc
    simp only [Bool.or_eq_true, decide_eq_true_eq, Bool.and_eq_true, beq_iff_eq] at hc
    rw [Nat.mul_add]
    omega
  · omega

end SourceCensus.Number
