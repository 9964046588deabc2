import SourceCensus.Proofs.Report.Printing

/-! # Line counts can be printed -/

namespace SourceCensus.Report

open Text (joiner)

section Names

variable {s : List Char}

theorem readTag?_of_not_mem (h : '[' ∉ s) : readTag? s = none := by
  unfold readTag?
  split
  · exact absurd List.mem_cons_self h
  · rfl

theorem unescape_of_not_mem (h : '[' ∉ s) : unescape s = s := by
  induction s with
  | nil => rfl
  | cons c s ih =>
    rw [List.mem_cons, not_or] at h
    unfold unescape
    split
    · simp_all
    · simp_all
    · simp_all

/-- Markup without brackets is one plain piece. -/
theorem piecesFrom_of_not_mem (h : '[' ∉ s) (position : Nat) (plain : List Char) :
    piecesFrom position plain s = plainPiece (s.reverse ++ plain) := by
  induction s generalizing position plain with
  | nil =>
    unfold piecesFrom
    rfl
  | cons c s ih =>
    have hnone : readTag? ((c :: s).dropWhile (· == '\\')) = none :=
      readTag?_of_not_mem fun hmem => h ((List.dropWhile_sublist _).subset hmem)
    unfold piecesFrom
    split
    · rename_i hsome
      rw [hnone] at hsome
      cases hsome
    · rw [ih (fun hmem => h (List.mem_cons_of_mem c hmem)), List.reverse_cons, List.append_assoc,
        List.singleton_append]

theorem ofMarkup_of_not_mem (h : '[' ∉ s) :
    Marked.ofMarkup s = .ok (.ofText (Text.withEmoji s)) := by
  have hpiece : piecesFrom 0 [] s = plainPiece s.reverse := by
    rw [piecesFrom_of_not_mem h, List.append_nil]
  have hmarked (text : List Char) : (⟨text, [], []⟩ : MarkupState).marked = ⟨text, []⟩ := by
    simp [MarkupState.marked]
  rw [Marked.ofMarkup, hpiece, plainPiece]
  cases s with
  | nil =>
    rw [Text.withEmoji]
    exact congrArg Except.ok (hmarked [])
  | cons c s =>
    rw [if_neg (by simp), List.reverse_reverse, unescape_of_not_mem h]
    exact congrArg Except.ok (hmarked _)

/-- The name of every language is plain text. -/
theorem isPlain_of_mem_all {l : Language} (h : l ∈ Language.all) :
    '[' ∉ l.name.toList ∧ joiner ∉ l.name.toList := by
  have hall : Language.all.all fun l =>
      decide ('[' ∉ l.name.toList ∧ joiner ∉ l.name.toList) := by decide +kernel
  exact of_decide_eq_true (List.all_eq_true.mp hall l h)

end Names

section Lines

variable {c : Census} {t : Tally} {files : Int}

structure IsSmallTally (t : Tally) : Prop where
  blank : IsSmall t.blank
  comment : IsSmall t.comment
  code : IsSmall t.code

structure IsSmallCensus (c : Census) : Prop where
  languages : ∀ l ∈ c.languages, IsSmall l.files ∧ IsSmallTally l.tally
  countedFiles : IsSmall (countedFiles c)
  totals : IsSmallTally c.totals
  totalFiles : IsSmall c.totalFiles
  uniqueFiles : IsSmall c.uniqueFiles
  duplicateFiles : IsSmall c.duplicateFiles
  binaryFiles : IsSmall c.binaryFiles
  elapsed : IsSmall c.elapsed

theorem exists_countCells (hfiles : IsSmall files) (ht : IsSmallTally t) :
    ∃ cells, countCells files t = .ok cells ∧ ∀ cell ∈ cells, cell.IsPrintable := by
  have hnumber : ∀ n ∈ [files, t.blank, t.comment, t.code], intText n = .ok (toString n) := by
    simp only [List.forall_mem_cons, List.not_mem_nil, false_implies, implies_true, and_true]
    exact ⟨intText_of_isSmall hfiles, intText_of_isSmall ht.blank, intText_of_isSmall ht.comment,
      intText_of_isSmall ht.code⟩
  refine ⟨_, by rw [countCells, mapM_eq_ok hnumber]; rfl, ?_⟩
  simp only [List.forall_mem_map]
  exact fun n _ => isPrintable_ofText_of_not_mem (joiner_not_mem_toString_int n)

theorem exists_languageName (terminal : Terminal) {l : LanguageCount}
    (h : ∃ language ∈ Language.all, language.name = l.name) :
    ∃ name, languageName terminal l = .ok name ∧ name.IsPrintable := by
  obtain ⟨language, hmem, hname⟩ := h
  obtain ⟨hbracket, hjoiner⟩ := isPlain_of_mem_all hmem
  rw [hname] at hbracket hjoiner
  unfold languageName
  split
  · exact ⟨_, by rw [ofMarkup_of_not_mem hbracket]; rfl,
      isPrintable_withEmoji (printsUnpaired_of_not_mem hjoiner)⟩
  · exact ⟨.ofText [], rfl, isPrintable_ofText_of_not_mem (by simp)⟩

theorem exists_censusTable (terminal : Terminal) (h : IsSmallCensus c)
    (hnames : ∀ l ∈ c.languages, ∃ language ∈ Language.all, language.name = l.name) :
    ∃ table, censusTable terminal c = .ok table ∧ table.IsPrintable := by
  obtain ⟨numbers, hnumbers, hnumber⟩ := exists_mapM_ok fun l hl =>
    exists_countCells (h.languages l hl).1 (h.languages l hl).2
  obtain ⟨sums, hsums, hsum⟩ := exists_countCells h.countedFiles h.totals
  obtain ⟨names, hread, hname⟩ := exists_mapM_ok fun l hl =>
    exists_languageName terminal (hnames l hl)
  refine ⟨_, by rw [censusTable, hnumbers, ok_bind, hsums, ok_bind, hread]; rfl, ?_, ?_⟩
  · intro title htitle
    cases htitle
  · intro row hrow cell hcell
    simp only [Table.allRows, Option.toList_some, List.mem_append, List.mem_singleton] at hrow
    rcases hrow with (rfl | hrow) | rfl
    · obtain ⟨label, hlabel, rfl⟩ := List.mem_map.mp hcell
      refine isPrintable_ofText_of_not_mem ?_
      revert label
      decide
    · rw [← List.map_uncurry_zip_eq_zipWith] at hrow
      obtain ⟨⟨name, cells⟩, hzip, rfl⟩ := List.mem_map.mp hrow
      obtain ⟨hmem, hcells⟩ := List.of_mem_zip hzip
      rcases List.mem_cons.mp hcell with rfl | hcell
      · exact hname _ hmem
      · exact hnumber cells hcells cell hcell
    · rcases List.mem_cons.mp hcell with rfl | hcell
      · exact isPrintable_ofText_of_not_mem (by decide)
      · exact hsum cell hcell

theorem exists_counters (h : IsSmallCensus c) :
    ∃ text, counters c = .ok text ∧ joiner ∉ text.toList := by
  refine ⟨_, by rw [counters, intText_of_isSmall h.totalFiles, intText_of_isSmall h.uniqueFiles,
    intText_of_isSmall h.duplicateFiles, intText_of_isSmall h.binaryFiles,
    intText_of_isSmall h.elapsed]; rfl, ?_⟩
  simp only [String.toList_append, List.mem_append, not_or]
  have hint := joiner_not_mem_toString_int
  exact ⟨⟨⟨⟨⟨⟨⟨⟨⟨⟨⟨by decide, hint _⟩, by decide⟩, hint _⟩, by decide⟩, hint _⟩, by decide⟩,
    hint _⟩, by decide⟩, joiner_not_mem_toString_nat _⟩, by decide⟩, hint _⟩

theorem exists_censusLines (terminal : Terminal) (h : IsSmallCensus c)
    (hnames : ∀ l ∈ c.languages, ∃ language ∈ Language.all, language.name = l.name) (verbose : Bool) :
    ∃ lines, censusLines terminal c verbose = .ok lines := by
  obtain ⟨table, htable, hprintable⟩ := exists_censusTable terminal h hnames
  obtain ⟨text, htext, hjoiner⟩ := exists_counters h
  unfold censusLines
  split
  · exact exists_nothingFound terminal
  · rw [htable, ok_bind]
    refine exists_bind (hprintable.exists_printTable terminal) fun lines _ => ?_
    split
    · rw [htext, ok_bind]
      exact exists_bind (exists_printPlain (printsUnpaired_of_not_mem hjoiner) terminal) fun _ _ => ⟨_, rfl⟩
    · exact ⟨lines, rfl⟩

end Lines

end SourceCensus.Report
