import Mathlib.Data.Nat.Digits.Defs
import SourceCensus.Proofs.Binary64
import SourceCensus.Proofs.Outcome
import SourceCensus.Report.Duplication

/-! # Numbers in reports -/

namespace SourceCensus.Report

open Duplication

variable {n : Int}

/-- A number that is far from every limit. -/
def IsSmall (n : Int) : Prop :=
  n.natAbs < 2 ^ 256

theorem IsSmall.of_nonneg_of_le {a b : Int} (ha : 0 ≤ a) (hab : a ≤ b) (hb : b < 2 ^ 256) :
    IsSmall a := by
  unfold IsSmall
  omega

theorem isSmall_natCast {n : Nat} (h : n < 2 ^ 256) : IsSmall n := h

theorem IsSmall.length_toString_le (h : IsSmall n) :
    (toString n.natAbs).length ≤ Text.digitLimit := by
  have hpow : n.natAbs < 10 ^ Text.digitLimit := by
    calc n.natAbs < 2 ^ 256 := h
      _ ≤ 10 ^ 256 := Nat.pow_le_pow_left (by decide) 256
      _ ≤ 10 ^ Text.digitLimit := Nat.pow_le_pow_right (by decide) (by decide)
  exact Nat.repr_length n.natAbs Text.digitLimit (by decide) hpow

theorem writeInteger_of_isSmall (h : IsSmall n) : Text.writeInteger n = .ok (toString n) := by
  rw [Text.writeInteger, if_neg (Nat.not_lt.mpr h.length_toString_le)]

theorem intText_of_isSmall (h : IsSmall n) : intText n = .ok (toString n) := by
  rw [intText, writeInteger_of_isSmall h]
  rfl

theorem eq_toString_of_intText {s : String} (h : intText n = .ok s) : s = toString n := by
  unfold intText Text.writeInteger at h
  split at h
  · cases h
  · cases h
    rfl

/-- The percentage of a project of moderate size can be told. -/
theorem exists_percentageOf {m : Metrics} (h : IsSmall m.duplicatedLines) :
    ∃ x, percentageOf m = .ok x := by
  have hlog : m.duplicatedLines.natAbs.log2 < 900 := by
    by_cases hzero : m.duplicatedLines.natAbs = 0
    · rw [hzero]
      decide
    · exact Nat.lt_trans ((Nat.log2_lt hzero).mpr h) (by decide)
  unfold percentageOf Metrics.percentage
  split
  · exact ⟨_, rfl⟩
  · obtain ⟨quotient, hquotient⟩ :=
      Number.Binary64.exists_ofQuotient?_of_log2_lt hlog m.totalLines
    rw [hquotient]
    exact ⟨_, rfl⟩

theorem toString_toNat (h : 0 ≤ n) : toString n.toNat = toString n := by
  lift n to Nat using h
  rfl

/-- No blank stands in the text of a natural number. -/
theorem blank_not_mem_toString (n : Nat) : ' ' ∉ (toString n).toList := by
  rw [Nat.toString_eq_ofList_toDigits, String.toList_ofList]
  intro hmem
  have hdigit := Nat.isDigit_of_mem_toDigits (by decide) (by decide) hmem
  revert hdigit
  decide

theorem eq_of_toString_eq {a b : Nat} (h : toString a = toString b) : a = b := by
  have hdigits := congrArg String.toList h
  simp only [Nat.toString_eq_ofList_toDigits, String.toList_ofList] at hdigits
  rw [← @Nat.ofDigitChars_ten_toDigits a, hdigits, Nat.ofDigitChars_ten_toDigits]

theorem eq_of_toString_append_blank {a b : Nat} {s t : List Char}
    (h : (toString a).toList ++ ' ' :: s = (toString b).toList ++ ' ' :: t) : a = b ∧ s = t := by
  have hcut (n : Nat) (rest : List Char) :
      ((toString n).toList ++ ' ' :: rest).takeWhile (· != ' ') = (toString n).toList := by
    rw [List.takeWhile_append_of_pos, List.takeWhile_cons_of_neg (by simp), List.append_nil]
    intro c hc
    have hne : c ≠ ' ' := by
      rintro rfl
      exact blank_not_mem_toString n hc
    simpa using hne
  have hdigits : (toString a).toList = (toString b).toList := by
    rw [← hcut a, h, hcut b]
  have hrest := List.append_cancel_left (hdigits ▸ h)
  exact ⟨eq_of_toString_eq (String.toList_inj.mp hdigits), (List.cons.inj hrest).2⟩

end SourceCensus.Report
