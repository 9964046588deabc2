import Mathlib.Algebra.Order.Field.Power
import Mathlib.Algebra.Order.Field.Rat
import Mathlib.Tactic.Positivity
import Mathlib.Tactic.Ring
import SourceCensus.Number.Binary64

/-! # Bounds on binary64 numbers -/

namespace SourceCensus.Number

theorem roundDiv_le {num den bound : Nat} (hden : 0 < den) (h : num ≤ bound * den) :
    roundDiv num den ≤ bound := by
  have hround : 2 * (den * roundDiv num den) ≤ 2 * num + den := two_mul_roundDiv_le hden
  by_contra hlt
  have hstep : (bound + 1) * den ≤ roundDiv num den * den := Nat.mul_le_mul_right den (by omega)
  rw [Nat.add_mul] at hstep
  rw [Nat.mul_comm den] at hround
  omega

namespace Magnitude

variable {num den bound : Nat}

def value (m : Magnitude) : ℚ :=
  m.significand * 2 ^ m.exponent

theorem value_nonneg (m : Magnitude) : 0 ≤ m.value := by
  unfold value
  positivity

theorem ratio_snd_pos (m : Magnitude) : 0 < m.ratio.2 := by
  unfold ratio
  split
  · exact Nat.two_pow_pos _
  · exact Nat.one_pos

theorem ratio_fst_eq (m : Magnitude) : (m.ratio.1 : ℚ) = m.value * m.ratio.2 := by
  unfold ratio value
  split
  · rename_i hneg
    have habs : (m.exponent.natAbs : Int) = -m.exponent := by omega
    simp only [Nat.pow_eq, Nat.cast_pow, Nat.cast_ofNat]
    rw [← zpow_natCast (2 : ℚ), habs, mul_assoc, ← zpow_add₀ two_ne_zero, add_neg_cancel, zpow_zero,
      mul_one]
  · rename_i hneg
    have habs : (m.exponent.natAbs : Int) = m.exponent := by omega
    simp only [Nat.pow_eq, Nat.cast_mul, Nat.cast_pow, Nat.cast_ofNat, Nat.cast_one, mul_one]
    rw [← zpow_natCast (2 : ℚ), habs]

theorem ratio_fst_le {m : Magnitude} (h : m.value ≤ bound) : m.ratio.1 ≤ bound * m.ratio.2 := by
  have hcast : (m.ratio.1 : ℚ) ≤ bound * m.ratio.2 := by
    rw [m.ratio_fst_eq]
    exact mul_le_mul_of_nonneg_right h (Nat.cast_nonneg _)
  exact_mod_cast hcast

/-- A quotient below the 53rd power of two has its last bit at the point or behind it. -/
theorem exponentOf_nonpos (h : num < 2 ^ 53 * den) : exponentOf num den ≤ 0 := by
  by_cases hzero : num = 0
  · simp [exponentOf, hzero, minExponent]
  have hguess : num.log2 < 54 + den.log2 := by
    apply (Nat.log2_lt hzero).mpr
    calc num < 2 ^ 53 * den := h
      _ ≤ 2 ^ 53 * 2 ^ (den.log2 + 1) := Nat.mul_le_mul_left _ Nat.lt_log2_self.le
      _ = 2 ^ (54 + den.log2) := by rw [← Nat.pow_add]; congr 1; omega
  have hleading : (if (scaled num den ((num.log2 : Int) - den.log2)).1 <
      (scaled num den ((num.log2 : Int) - den.log2)).2 then (num.log2 : Int) - den.log2 - 1
      else (num.log2 : Int) - den.log2) ≤ 52 := by
    by_cases htop : (num.log2 : Int) - den.log2 = 53
    · have hscaled : scaled num den 53 = (num, den * 2 ^ 53) := rfl
      rw [htop, hscaled, if_pos (by omega)]
      omega
    · split <;> omega
  simp only [exponentOf, if_neg hzero, minExponent]
  omega

/-- At an exponent that is not positive, a quotient within a bound has a significand within the
scaled bound. -/
theorem roundDiv_scaled_le {e : Int} (he : e ≤ 0) (hden : 0 < den) (h : num ≤ bound * den) :
    roundDiv (scaled num den e).1 (scaled num den e).2 ≤ bound * 2 ^ e.natAbs := by
  have hscaled : scaled num den e = (num * 2 ^ e.natAbs, den) := by
    unfold scaled
    split
    · rfl
    · obtain rfl : e = 0 := by omega
      simp
  rw [hscaled]
  apply roundDiv_le hden
  calc num * 2 ^ e.natAbs ≤ bound * den * 2 ^ e.natAbs := Nat.mul_le_mul_right _ h
    _ = bound * 2 ^ e.natAbs * den := by ring

theorem value_le_of_significand_le {significand : Nat} {e : Int} (he : e ≤ 0)
    (h : significand ≤ bound * 2 ^ e.natAbs) : value ⟨significand, e⟩ ≤ bound := by
  have habs : (e.natAbs : Int) = -e := by omega
  have hcast : (significand : ℚ) ≤ bound * 2 ^ e.natAbs := by exact_mod_cast h
  calc (significand : ℚ) * 2 ^ e ≤ bound * 2 ^ e.natAbs * 2 ^ e := by gcongr
    _ = bound := by
      rw [← zpow_natCast (2 : ℚ), habs, mul_assoc, ← zpow_add₀ two_ne_zero, neg_add_cancel,
        zpow_zero, mul_one]

/-- A significand that rounding carries to the next power of two is halved, and the value stays. -/
theorem value_carried (e : Int) :
    value ⟨leastNormal, e + 1⟩ = value ⟨2 * leastNormal, e⟩ := by
  simp only [value]
  rw [zpow_add_one₀ two_ne_zero]
  push_cast
  ring

/-- A quotient that is at most a natural number below the 53rd power of two is rounded to a magnitude
that is at most that number. -/
theorem exists_ofRatio?_le (hden : 0 < den) (h : num ≤ bound * den) (hbound : bound < 2 ^ 53) :
    ∃ m, ofRatio? num den = some m ∧ m.value ≤ bound := by
  have he : exponentOf num den ≤ 0 := by
    apply exponentOf_nonpos
    calc num ≤ bound * den := h
      _ < 2 ^ 53 * den := Nat.mul_lt_mul_of_pos_right hbound hden
  have hvalue := value_le_of_significand_le he (roundDiv_scaled_le he hden h)
  simp only [ofRatio?]
  split
  · rename_i hcarry
    rw [hcarry, ← value_carried] at hvalue
    exact ⟨_, if_neg (by simp only [maxExponent]; omega), hvalue⟩
  · exact ⟨_, if_neg (by simp only [maxExponent]; omega), hvalue⟩

theorem exponentOf_le (num den : Nat) : exponentOf num den ≤ num.log2 := by
  simp only [exponentOf, minExponent]
  split_ifs <;> omega

/-- The quotient of a number that is far from the limit of the exponents is not too large. -/
theorem exists_ofRatio?_of_log2_lt (h : num.log2 < 900) (den : Nat) :
    ∃ m, ofRatio? num den = some m := by
  have he := exponentOf_le num den
  simp only [ofRatio?]
  split
  · exact ⟨_, if_neg (by simp only [maxExponent]; omega)⟩
  · exact ⟨_, if_neg (by simp only [maxExponent]; omega)⟩

end Magnitude

namespace Binary64

/-- The number as a rational number; none when it is not finite. -/
def value? : Binary64 → Option ℚ
  | .finite negative m => some (if negative then -m.value else m.value)
  | .infinite _ => none
  | .nan => none

/-- The number is finite and lies between zero and a bound. -/
def Within (bound : ℚ) (x : Binary64) : Prop :=
  ∃ q, x.value? = some q ∧ 0 ≤ q ∧ q ≤ bound

theorem within_finite {m : Magnitude} {bound : ℚ} (h : m.value ≤ bound) :
    Within bound (.finite false m) :=
  ⟨m.value, rfl, m.value_nonneg, h⟩

theorem within_zero {bound : ℚ} (h : 0 ≤ bound) : Within bound zero := by
  apply within_finite
  simpa [Magnitude.value] using h

/-- The quotient of two integers that are not negative, within a bound. -/
theorem exists_ofQuotient?_le {num den : Int} {bound : Nat} (hnum : 0 ≤ num) (hden : 0 < den)
    (h : num ≤ bound * den) (hbound : bound < 2 ^ 53) :
    ∃ m : Magnitude, ofQuotient? num den = some (.finite false m) ∧ m.value ≤ bound := by
  lift num to ℕ using hnum
  lift den to ℕ using hden.le
  obtain ⟨m, hm, hvalue⟩ :=
    Magnitude.exists_ofRatio?_le (by omega : 0 < den) (by exact_mod_cast h) hbound
  refine ⟨m, ?_, hvalue⟩
  have hsign : (decide ((num : Int) < 0) != decide ((den : Int) < 0)) = false := by
    simp [Int.not_lt.mpr (Int.natCast_nonneg _)]
  rw [ofQuotient?, Int.natAbs_natCast, Int.natAbs_natCast, hm, hsign, Option.map_some]

theorem exists_ofQuotient?_of_log2_lt {num : Int} (h : num.natAbs.log2 < 900) (den : Int) :
    ∃ x, ofQuotient? num den = some x := by
  obtain ⟨m, hm⟩ := Magnitude.exists_ofRatio?_of_log2_lt h den.natAbs
  exact ⟨_, by rw [ofQuotient?, hm, Option.map_some]⟩

theorem timesNat_within {m : Magnitude} {factor bound : Nat} (h : m.value ≤ bound)
    (hbound : bound * factor < 2 ^ 53) :
    Within (bound * factor : Nat) (timesNat (.finite false m) factor) := by
  have hnum : m.ratio.1 * factor ≤ bound * factor * m.ratio.2 := by
    rw [Nat.mul_right_comm]
    exact Nat.mul_le_mul_right factor (Magnitude.ratio_fst_le h)
  obtain ⟨product, hproduct, hvalue⟩ := Magnitude.exists_ofRatio?_le m.ratio_snd_pos hnum hbound
  unfold timesNat
  simp only [hproduct]
  exact within_finite hvalue

end Binary64

end SourceCensus.Number
