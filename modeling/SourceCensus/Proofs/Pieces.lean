import Mathlib.Data.List.TakeWhile
import SourceCensus.Text.Search

/-! # Pieces of a text -/

namespace SourceCensus.Text

theorem splitOn_eq (c : Char) (s : List Char) :
    splitOn c s = s.takeWhile (· != c) ::
      match s.dropWhile (· != c) with
      | [] => []
      | _ :: rest => splitOn c rest := by
  induction s with
  | nil => rfl
  | cons d s ih =>
    by_cases hd : d = c
    · simp [splitOn, hd]
    · simp only [splitOn, if_neg hd, ih]
      simp [hd]

theorem splitOn_append (c : Char) (a b : List Char) :
    splitOn c (a ++ c :: b) = splitOn c a ++ splitOn c b := by
  induction a with
  | nil => simp [splitOn]
  | cons d a ih =>
    by_cases hd : d = c
    · simp [splitOn, hd, ih]
    · simp only [List.cons_append, splitOn, if_neg hd, ih]
      rw [splitOn_eq c a]
      simp

theorem splitOn_of_not_mem {c : Char} {s : List Char} (h : c ∉ s) : splitOn c s = [s] := by
  induction s with
  | nil => rfl
  | cons d s ih =>
    rw [List.mem_cons, not_or] at h
    simp [splitOn, Ne.symm h.1, ih h.2]

theorem not_mem_of_mem_splitOn {c : Char} {s piece : List Char} (h : piece ∈ splitOn c s) :
    c ∉ piece := by
  induction s generalizing piece with
  | nil => simp_all
  | cons d s ih =>
    by_cases hd : d = c
    · rw [hd, splitOn_cons_self, List.mem_cons] at h
      rcases h with rfl | h
      · simp
      · exact ih h
    · simp only [splitOn, if_neg hd] at h
      rw [splitOn_eq] at h ih
      simp only [List.mem_cons] at h ih
      rcases h with rfl | h
      · simpa [Ne.symm hd] using ih (.inl rfl)
      · exact ih (.inr h)

theorem infix_of_mem_splitOn {c : Char} {s piece : List Char} (h : piece ∈ splitOn c s) :
    piece <:+: s := by
  induction s generalizing piece with
  | nil => simp_all
  | cons d s ih =>
    by_cases hd : d = c
    · rw [hd, splitOn_cons_self, List.mem_cons] at h
      rcases h with rfl | h
      · exact List.nil_infix
      · exact (ih h).trans (List.suffix_cons d s).isInfix
    · simp only [splitOn, if_neg hd] at h
      rw [splitOn_eq] at h ih
      simp only [List.mem_cons] at h ih
      rcases h with rfl | h
      · exact (List.cons_prefix_cons.mpr ⟨rfl, List.takeWhile_prefix _⟩).isInfix
      · exact (ih (.inr h)).trans (List.suffix_cons d s).isInfix

theorem join_splitOn (c : Char) (s : List Char) : join [c] (splitOn c s) = s := by
  induction s with
  | nil => rfl
  | cons d s ih =>
    obtain ⟨piece, pieces, hpieces⟩ := List.exists_cons_of_ne_nil (splitOn_ne_nil c s)
    rw [hpieces] at ih
    by_cases hd : d = c
    · rw [hd, splitOn_cons_self, hpieces, join_cons_cons, ih]
      rfl
    · simp only [splitOn, if_neg hd, hpieces]
      cases pieces with
      | nil => simpa using ih
      | cons second pieces => simpa [join_cons_cons] using ih

theorem splitOn_join {c : Char} {names : List (List Char)} (hne : names ≠ [])
    (h : ∀ name ∈ names, c ∉ name) : splitOn c (join [c] names) = names := by
  induction names with
  | nil => exact absurd rfl hne
  | cons name names ih =>
    cases names with
    | nil => simpa using splitOn_of_not_mem (h name (by simp))
    | cons second names =>
      rw [join_cons_cons, List.append_assoc, List.singleton_append, splitOn_append,
        splitOn_of_not_mem (h name (by simp)), ih (by simp) fun n hn => h n (by simp [hn])]
      rfl

theorem splitOn_append_replicate {c : Char} {s : List Char} (h : c ∉ s) (count : Nat) :
    splitOn c (s ++ List.replicate count c) = s :: List.replicate count [] := by
  induction count with
  | zero => simpa using splitOn_of_not_mem h
  | succ count ih =>
    rw [List.replicate_succ', ← List.append_assoc, splitOn_append, ih, List.replicate_succ']
    rfl

end SourceCensus.Text
