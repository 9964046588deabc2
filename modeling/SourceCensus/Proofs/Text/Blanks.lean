import Mathlib.Data.List.DropRight
import SourceCensus.Text.Blank

/-! # Trimming and words -/

namespace SourceCensus.Text

variable {s word rest blanks : List Char} {c : Char}

section Trimming

theorem isBlankText_trimStart (s : List Char) : isBlankText (trimStart s) = isBlankText s := by
  induction s with
  | nil => rfl
  | cons c s ih =>
    cases hc : isBlank c with
    | true => rw [trimStart_cons_of_isBlank hc, ih, isBlankText_cons, hc, Bool.true_and]
    | false => rw [trimStart_cons_of_not_isBlank hc]

/-- Trimming leaves nothing of a text that looks blank, and of no other. -/
theorem trim_eq_nil_iff (s : List Char) : trim s = [] ↔ isBlankText s = true := by
  rw [← isBlankText_trimStart, isBlankText, List.all_eq_true]
  exact List.rdropWhile_eq_nil_iff

theorem exists_trimEnd_append (s : List Char) :
    ∃ blanks, trimEnd s ++ blanks = s ∧ ∀ c ∈ blanks, isBlank c = true :=
  ⟨s.rtakeWhile isBlank, List.rdropWhile_append_rtakeWhile,
    fun _ => List.mem_rtakeWhile_imp⟩

theorem trimEnd_append (front : List Char) (h : trimEnd s ≠ []) :
    trimEnd (front ++ s) = front ++ trimEnd s := by
  have hfilled : (s.reverse.dropWhile isBlank).isEmpty = false := by
    simpa [trimEnd] using h
  rw [trimEnd, List.reverse_append, List.dropWhile_append, hfilled, if_neg (by simp),
    List.reverse_append, List.reverse_reverse]
  rfl

theorem trimEnd_cons (hc : isBlank c = false) (s : List Char) : trimEnd (c :: s) = c :: trimEnd s := by
  by_cases hs : trimEnd s = []
  · have hblank : s.reverse.dropWhile isBlank = [] := List.reverse_eq_nil_iff.mp hs
    rw [hs, trimEnd, List.reverse_cons, List.dropWhile_append, hblank]
    simp [hc]
  · exact trimEnd_append [c] hs

/-- Trimming the end stops at a character that is not blank. -/
theorem trimEnd_append_cons (front : List Char) (hc : isBlank c = false) (s : List Char) :
    trimEnd (front ++ c :: s) = front ++ c :: trimEnd s := by
  have hkept := trimEnd_cons hc s
  rw [trimEnd_append front (by simp [hkept]), hkept]

end Trimming

section Words

def IsSolid (s : List Char) : Prop :=
  ∀ c ∈ s, isBlank c = false

instance (s : List Char) : Decidable (IsSolid s) :=
  List.decidableBAll _ s

theorem isSolid_cons : IsSolid (c :: s) ↔ isBlank c = false ∧ IsSolid s :=
  List.forall_mem_cons

theorem isSolid_append : IsSolid (s ++ rest) ↔ IsSolid s ∧ IsSolid rest :=
  List.forall_mem_append

theorem words_of_dropWhile_eq_nil (h : s.dropWhile isBlank = []) : words s = [] := by
  rw [words]
  split
  · rfl
  · rename_i hcons
    rw [h] at hcons
    cases hcons

theorem words_of_dropWhile_eq_cons (h : s.dropWhile isBlank = c :: rest) :
    words s = (c :: rest.takeWhile (! isBlank ·)) :: words (rest.dropWhile (! isBlank ·)) := by
  rw [words]
  split
  · rename_i hnil
    rw [h] at hnil
    cases hnil
  · rename_i hcons
    rw [h] at hcons
    obtain ⟨rfl, rfl⟩ := List.cons.inj hcons
    rfl

@[simp] theorem words_nil : words [] = [] :=
  words_of_dropWhile_eq_nil rfl

theorem words_trimStart (s : List Char) : words (trimStart s) = words s := by
  have htwice : (s.dropWhile isBlank).dropWhile isBlank = s.dropWhile isBlank :=
    List.dropWhile_idempotent _ s
  cases h : s.dropWhile isBlank with
  | nil => rw [trimStart, h, words_nil, words_of_dropWhile_eq_nil h]
  | cons c rest =>
    rw [h] at htwice
    rw [trimStart, h, words_of_dropWhile_eq_cons htwice, words_of_dropWhile_eq_cons h]

theorem words_cons_of_isBlank (hc : isBlank c = true) (s : List Char) : words (c :: s) = words s := by
  rw [← words_trimStart (c :: s), trimStart_cons_of_isBlank hc, words_trimStart]

/-- A word is cut off where it ends: at a blank, or with the text. -/
theorem words_append (hne : word ≠ []) (hword : IsSolid word)
    (hrest : ∀ c ∈ rest.head?, isBlank c = true) : words (word ++ rest) = word :: words rest := by
  obtain ⟨first, more, rfl⟩ := List.exists_cons_of_ne_nil hne
  obtain ⟨hfirst, hmore⟩ := isSolid_cons.mp hword
  have hsolid : ∀ c ∈ more, (! isBlank c) = true := fun c hc => by rw [hmore c hc]; rfl
  have hstart : (first :: (more ++ rest)).dropWhile isBlank = first :: (more ++ rest) :=
    List.dropWhile_cons_of_neg (by simp [hfirst])
  rw [List.cons_append, words_of_dropWhile_eq_cons hstart, List.takeWhile_append_of_pos hsolid,
    List.dropWhile_append_of_pos hsolid]
  cases rest with
  | nil => simp
  | cons d rest =>
    have hd : isBlank d = true := hrest d rfl
    simp [hd]

theorem words_eq_singleton (hne : word ≠ []) (hword : IsSolid word) :
    words word = [word] := by
  have h : words (word ++ []) = word :: words [] := words_append hne hword (by simp)
  rwa [List.append_nil, words_nil] at h

theorem ne_nil_of_mem_words (h : word ∈ words s) : word ≠ [] := by
  fun_induction words s with
  | case1 => cases h
  | case2 s c rest _ ih =>
    rcases List.mem_cons.mp h with rfl | h
    · exact List.cons_ne_nil _ _
    · exact ih h

theorem words_append_blanks (hblanks : ∀ c ∈ blanks, isBlank c = true) (s : List Char) :
    words (s ++ blanks) = words s := by
  have hnone : blanks.takeWhile (! isBlank ·) = [] ∧ blanks.dropWhile (! isBlank ·) = blanks := by
    cases blanks with
    | nil => exact ⟨rfl, rfl⟩
    | cons b blanks => simp [hblanks b]
  fun_induction words s with
  | case1 s h =>
    apply words_of_dropWhile_eq_nil
    rw [List.dropWhile_append_of_pos (List.dropWhile_eq_nil_iff.mp h)]
    exact List.dropWhile_eq_nil_iff.mpr hblanks
  | case2 s c rest h ih =>
    have hstart : (s ++ blanks).dropWhile isBlank = c :: (rest ++ blanks) := by
      rw [List.dropWhile_append, h]
      rfl
    have htake : (rest ++ blanks).takeWhile (! isBlank ·) = rest.takeWhile (! isBlank ·) := by
      rw [List.takeWhile_append, hnone.1, List.append_nil]
      split_ifs with hlength
      · exact ((List.takeWhile_prefix _).eq_of_length hlength).symm
      · rfl
    have hdrop : (rest ++ blanks).dropWhile (! isBlank ·) = rest.dropWhile (! isBlank ·) ++ blanks := by
      rw [List.dropWhile_append, hnone.2]
      split_ifs with hempty
      · rw [List.isEmpty_iff.mp hempty, List.nil_append]
      · rfl
    rw [words_of_dropWhile_eq_cons hstart, htake, hdrop, ih]

theorem words_trimEnd (s : List Char) : words (trimEnd s) = words s := by
  obtain ⟨blanks, hs, hblanks⟩ := exists_trimEnd_append s
  rw [← words_append_blanks hblanks, hs]

theorem words_trim (s : List Char) : words (trim s) = words s := by
  rw [trim, words_trimEnd, words_trimStart]

end Words

end SourceCensus.Text
