import SourceCensus.Proofs.Ignore.Rebase

/-! # Moving a line in steps -/

namespace SourceCensus.Ignore

variable {line base outer inner : List Char}

section Patterns

theorem anchored_cons_slash (rest : List Char) : anchored ('/' :: rest) = '/' :: rest := by
  simp [anchored]

/-- A pattern that was moved is rooted, so that only the outer directory is written before it. -/
theorem rebasePattern_rebasePattern (outer inner pattern : List Char) :
    rebasePattern outer (rebasePattern inner pattern) =
      rebasePattern (outer ++ '/' :: inner) pattern := by
  simp only [rebasePattern_eq, anchored_cons_slash, List.append_assoc, List.cons_append]

end Patterns

section Lines

theorem isIdle_cons {c : Char} (hblank : Text.isBlank c = false) (hc : c ≠ '#') (rest : List Char) :
    isIdle (c :: rest) = false := by
  simp [isIdle, hblank, hc, Text.trimStart_cons_of_not_isBlank hblank]

theorem rebase_of_isIdle (hidle : isIdle line = true) : rebase base line = line := by
  simp [rebase, hidle]

/-- A line of rules is moved with its sign left in front. -/
theorem rebase_cases (hbase : base ≠ []) (hidle : isIdle line = false) :
    (∃ pattern, line = '!' :: pattern ∧ rebase base line = '!' :: rebasePattern base pattern) ∨
      (line.head? ≠ some '!' ∧ rebase base line = rebasePattern base line) := by
  by_cases hsign : line.head? = some '!'
  · obtain ⟨pattern, rfl⟩ := List.head?_eq_some_iff.mp hsign
    exact .inl ⟨pattern, rfl, rebase_of_negated hbase hidle⟩
  · exact .inr ⟨hsign, rebase_of_plain hbase hidle hsign⟩

theorem isIdle_rebase (base line : List Char) : isIdle (rebase base line) = isIdle line := by
  rcases eq_or_ne base [] with rfl | hbase
  · rw [rebase_nil]
  cases hidle : isIdle line with
  | true => rw [rebase_of_isIdle hidle, hidle]
  | false =>
    rcases rebase_cases hbase hidle with ⟨pattern, -, hmoved⟩ | ⟨-, hmoved⟩
    · rw [hmoved]
      exact isIdle_cons (by decide) (by decide) _
    · rw [hmoved, rebasePattern_eq]
      exact isIdle_cons (by decide) (by decide) _

theorem head?_rebase (base line : List Char) :
    (rebase base line).head? = some '!' ↔ line.head? = some '!' := by
  rcases eq_or_ne base [] with rfl | hbase
  · rw [rebase_nil]
  cases hidle : isIdle line with
  | true => rw [rebase_of_isIdle hidle]
  | false =>
    rcases rebase_cases hbase hidle with ⟨pattern, rfl, hmoved⟩ | ⟨hsign, hmoved⟩
    · simp [hmoved]
    · simp [hmoved, rebasePattern_eq, hsign]

theorem rebase_rebase (houter : outer ≠ []) (hinner : inner ≠ []) (line : List Char) :
    rebase outer (rebase inner line) = rebase (outer ++ '/' :: inner) line := by
  have hboth : outer ++ '/' :: inner ≠ [] := by simp
  cases hidle : isIdle line with
  | true => rw [rebase_of_isIdle hidle, rebase_of_isIdle hidle, rebase_of_isIdle hidle]
  | false =>
    have hmovedIdle := (isIdle_rebase inner line).trans hidle
    by_cases hsign : line.head? = some '!'
    · obtain ⟨pattern, rfl⟩ := List.head?_eq_some_iff.mp hsign
      rw [rebase_of_negated hinner hidle] at hmovedIdle ⊢
      rw [rebase_of_negated houter hmovedIdle, rebase_of_negated hboth hidle,
        rebasePattern_rebasePattern]
    · have hmovedSign := (head?_rebase inner line).not.mpr hsign
      rw [rebase_of_plain houter hmovedIdle hmovedSign, rebase_of_plain hinner hidle hsign,
        rebase_of_plain hboth hidle hsign, rebasePattern_rebasePattern]

end Lines

section Remarks

/-- What a reader of rules passes over: no text, or a comment. -/
def IsRemark (line : List Char) : Prop :=
  trimLine line = [] ∨ (trimLine line).head? = some '#'

theorem isIdle_of_isRemark (h : IsRemark line) : isIdle line = true := by
  rcases h with hempty | hcomment
  · obtain ⟨blanks, hline, hblanks⟩ := exists_blanks line
    rw [hempty, List.nil_append] at hline
    have hblank : Text.isBlankText line = true := List.all_eq_true.mpr (hline ▸ hblanks)
    simp [isIdle, hblank]
  · have hfilled : trimLine line ≠ [] := by
      intro hempty
      simp [hempty] at hcomment
    rw [head?_trimLine hfilled] at hcomment
    obtain ⟨rest, rfl⟩ := List.head?_eq_some_iff.mp hcomment
    simp [isIdle, Text.trimStart_cons_of_not_isBlank (c := '#') rfl]

theorem isRemark_rebase (base line : List Char) : IsRemark (rebase base line) ↔ IsRemark line := by
  cases hidle : isIdle line with
  | true => rw [rebase_of_isIdle hidle]
  | false =>
    have hmoved := (isIdle_rebase base line).trans hidle
    refine iff_of_false (fun h => ?_) fun h => ?_
    · simp [isIdle_of_isRemark h] at hmoved
    · simp [isIdle_of_isRemark h] at hidle

end Remarks

/-- Directories act on lines by being written before them: two in turn act as their path does, and the
root, whose path is empty, leaves every line as it is.  A line is blank or a comment before it is moved
exactly when it is afterwards, be it for the one who moves it or for the reader of rules, and it is
negated before exactly when it is afterwards. -/
theorem directories_act_on_lines (line : List Char) :
    (∀ outer inner, outer ≠ [] → inner ≠ [] →
      rebase outer (rebase inner line) = rebase (outer ++ '/' :: inner) line) ∧
    rebase [] line = line ∧
    ∀ base, isIdle (rebase base line) = isIdle line ∧
      (IsRemark (rebase base line) ↔ IsRemark line) ∧
      ((rebase base line).head? = some '!' ↔ line.head? = some '!') :=
  ⟨fun _ _ houter hinner => rebase_rebase houter hinner line, rebase_nil line, fun base =>
    ⟨isIdle_rebase base line, isRemark_rebase base line, head?_rebase base line⟩⟩

/-- A negated pattern that is nothing but a slash is moved out of `gen` and then out of `lib`. -/
theorem slash_moved_twice : "lib".toList ≠ [] ∧ "gen".toList ≠ [] ∧
    rebase "lib".toList (rebase "gen".toList "!/".toList) = "!/lib/gen/".toList := by
  have houter : "lib".toList ≠ [] := by decide
  have hinner : "gen".toList ≠ [] := by decide
  refine ⟨houter, hinner, ?_⟩
  rw [(directories_act_on_lines "!/".toList).1 _ _ houter hinner]
  decide

end SourceCensus.Ignore
