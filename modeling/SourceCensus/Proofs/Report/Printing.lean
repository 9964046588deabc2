import SourceCensus.Proofs.Report.Emoji
import SourceCensus.Proofs.Report.Summary
import SourceCensus.Proofs.Report.Tables
import SourceCensus.Report.LineCount

/-! # Reports can be printed -/

namespace SourceCensus.Report

open Duplication
open Text (IsUnpaired joiner)

section Texts

variable {s : List Char} {t : Marked} {style label rest : String}

theorem joiner_not_mem_toString_nat (n : Nat) : joiner ∉ (toString n).toList := by
  rw [Nat.toString_eq_ofList_toDigits, String.toList_ofList]
  intro hmem
  have hdigit := Nat.isDigit_of_mem_toDigits (by decide) (by decide) hmem
  revert hdigit
  decide

theorem joiner_not_mem_toString_int (n : Int) : joiner ∉ (toString n).toList := by
  cases n with
  | ofNat n => exact joiner_not_mem_toString_nat n
  | negSucc n =>
    change joiner ∉ ("-" ++ toString (n + 1)).toList
    rw [String.toList_append, List.mem_append, not_or]
    exact ⟨by decide, joiner_not_mem_toString_nat (n + 1)⟩

theorem joiner_not_mem_decimalDigits (n : Nat) : joiner ∉ Number.decimalDigits n := by
  have h := joiner_not_mem_toString_nat n
  rwa [Nat.toString_eq_ofList_toDigits, String.toList_ofList] at h

theorem joiner_not_mem_fixedText (x : Number.Binary64) : joiner ∉ x.fixedText.toList := by
  have hsign (negative : Bool) : joiner ∉ Number.Binary64.signText negative := by
    cases negative <;> decide
  cases x with
  | finite negative magnitude =>
    simp only [Number.Binary64.fixedText, String.toList_ofList, List.mem_append, List.mem_cons, not_or]
    exact ⟨⟨hsign negative, joiner_not_mem_decimalDigits _⟩, by decide, joiner_not_mem_decimalDigits _⟩
  | infinite negative => cases negative <;> decide
  | nan => decide

theorem isPrintable_ofText_of_not_mem (h : joiner ∉ s) : (Marked.ofText s).IsPrintable :=
  .ofText (printsUnpaired_of_not_mem h)

theorem isPrintable_withEmoji (h : PrintsUnpaired s) :
    (Marked.ofText (Text.withEmoji s)).IsPrintable :=
  .ofText (h.of_keeps (keepsUnpaired_withEmoji s))

theorem exists_of_isOk {ε α : Type} {x : Except ε α} (h : x.isOk = true) : ∃ a, x = .ok a := by
  cases x with
  | ok a => exact ⟨a, rfl⟩
  | error => cases h

/-- A text that is no name has the style that it describes. -/
theorem exists_ofText (hname : theme.all (·.1 != style) = true)
    (h : (Style.ofDescription? style.toList).isOk = true) :
    ∃ named, Style.ofText style.toList = .ok named := by
  have hnone : theme.find? (fun entry => entry.1.toList = style.toList) = none := by
    rw [List.find?_eq_none]
    intro entry hentry heq
    have hne := List.all_eq_true.mp hname entry hentry
    exact bne_iff_ne.mp hne (String.toList_inj.mp (of_decide_eq_true heq))
  obtain ⟨named?, hnamed⟩ := exists_of_isOk h
  exact ⟨named?.getD .plain, by rw [Style.ofText, hnone, Option.elim_none, hnamed]; rfl⟩

theorem exists_ofText_of_mem (h : style ∈ ["bold", "bold red", "yellow"]) :
    ∃ named, Style.ofText style.toList = .ok named := by
  simp only [List.mem_cons, List.not_mem_nil, or_false] at h
  rcases h with rfl | rfl | rfl
  · exact exists_ofText (by simp [theme]) (by decide +kernel)
  · exact exists_ofText (by simp [theme]) (by decide +kernel)
  · exact exists_ofText (by simp [theme]) (by decide +kernel)

theorem isPrintable_labelled (hstyle : style ∈ ["bold", "bold red", "yellow"])
    (htext : joiner ∉ (label ++ rest).toList) : (labelled style label rest).IsPrintable := by
  refine ⟨Text.isUnpaired_of_not_mem htext, fun m hm => ?_⟩
  rw [List.mem_singleton.mp hm]
  exact exists_ofText_of_mem hstyle

theorem isPrintable_groupsHeading : groupsHeading.IsPrintable := by
  refine ⟨Text.isUnpaired_of_not_mem (by decide), fun m hm => ?_⟩
  have hstyle : m.style = "bold".toList := by
    rcases List.mem_pair.mp hm with rfl | rfl
    · rfl
    · rfl
  rw [hstyle]
  exact exists_ofText_of_mem (by decide)

theorem isPrintable_ellipsis : ellipsis.IsPrintable := by
  refine ⟨Text.isUnpaired_of_not_mem (by decide), fun m hm => ?_⟩
  rw [List.mem_singleton.mp hm]
  exact exists_ofText_of_mem (by decide)

theorem Marked.IsPrintable.exists_printText (h : t.IsPrintable) (terminal : Terminal) :
    ∃ lines, printText terminal t = .ok lines := by
  obtain ⟨lines, hlines⟩ := h.exists_printedLines terminal.width
  exact ⟨lines, by rw [printText, hlines]; rfl⟩

theorem exists_printPlain {s : String} (h : PrintsUnpaired s.toList) (terminal : Terminal) :
    ∃ lines, printPlain terminal s = .ok lines :=
  (isPrintable_withEmoji h).exists_printText terminal

theorem exists_nothingFound (terminal : Terminal) : ∃ lines, nothingFound terminal = .ok lines := by
  have htext : PrintsUnpaired "No recognized source files found.".toList := by decide
  exact exists_printPlain htext terminal

theorem Table.IsPrintable.exists_printTable {t : Table} (h : t.IsPrintable) (terminal : Terminal) :
    ∃ lines, printTable terminal t = .ok lines := by
  obtain ⟨lines, hlines⟩ := h.exists_lines terminal.width
  exact ⟨lines, by rw [printTable, hlines]; rfl⟩

end Texts

section Duplicates

variable {files : List CodeFile} {groups shown : List Group} {g : Group} {bound : Int}
  {terminal : Terminal}

theorem joiner_not_mem_fullRows (m : Metrics) (b : Breakdown) (x : Number.Binary64) :
    ∀ row ∈ fullRows m b x, joiner ∉ row.1.toList ∧ joiner ∉ row.2.toList := by
  have hlargest : ∀ row ∈ largestCells m, joiner ∉ row.1.toList ∧ joiner ∉ row.2.toList := by
    unfold largestCells
    split
    · simp
    · simp only [List.forall_mem_singleton, String.toList_append, List.mem_append, not_or]
      exact ⟨by decide, joiner_not_mem_toString_int _, by decide⟩
  have hseverity {label : String} (hlabel : joiner ∉ label.toList) (groups lines : Int) :
      ∀ row ∈ severityCells label groups lines, joiner ∉ row.1.toList ∧ joiner ∉ row.2.toList := by
    unfold severityCells
    split
    · simp
    · simp only [List.forall_mem_singleton, String.toList_append, List.mem_append, not_or]
      exact ⟨hlabel, ⟨⟨joiner_not_mem_toString_int _, by decide⟩, joiner_not_mem_toString_int _⟩,
        by decide⟩
  have hassessment (a : Assessment) : joiner ∉ a.label.toList := by
    cases a <;> decide
  have hpercentage : joiner ∉ (x.fixedText ++ "%").toList := by
    rw [String.toList_append, List.mem_append, not_or]
    exact ⟨joiner_not_mem_fixedText x, by decide⟩
  simp only [fullRows, List.forall_mem_append, List.forall_mem_cons, List.not_mem_nil,
    false_implies, implies_true, and_true]
  refine ⟨⟨⟨⟨?_, hlargest⟩, hseverity (by decide) _ _⟩, hseverity (by decide) _ _⟩, by decide,
    hassessment _⟩
  exact ⟨⟨by decide, joiner_not_mem_toString_int _⟩, ⟨by decide, joiner_not_mem_toString_int _⟩,
    ⟨by decide, hpercentage⟩, ⟨by decide, joiner_not_mem_toString_int _⟩, by decide,
    joiner_not_mem_toString_int _⟩

theorem isPrintable_summaryTable {rows : List SummaryRow}
    (h : ∀ row ∈ rows, joiner ∉ row.1.toList ∧ joiner ∉ row.2.toList) :
    (summaryTable rows).IsPrintable := by
  constructor
  · intro title htitle
    rw [← Option.some.inj htitle]
    exact isPrintable_ofText_of_not_mem (by decide)
  · intro cells hcells cell hcell
    have hrow : cells ∈ rows.map fun row : SummaryRow =>
        [Marked.ofText row.1.toList, Marked.ofText row.2.toList] := by
      simpa [Table.allRows, summaryTable] using hcells
    obtain ⟨row, hmem, rfl⟩ := List.mem_map.mp hrow
    obtain ⟨hlabel, hvalue⟩ := h row hmem
    rcases List.mem_pair.mp hcell with rfl | rfl
    · exact isPrintable_ofText_of_not_mem hlabel
    · exact isPrintable_ofText_of_not_mem hvalue

theorem exists_summaryLines (terminal : Terminal) (h : Magnitude files groups bound) (hbound : bound < 2 ^ 256)
    (hlines : (summarize files groups).totalLines < 2 ^ 256) (hsub : shown.Sublist groups) :
    ∃ lines, summaryLines terminal (summarize files groups) shown = .ok lines := by
  obtain ⟨rows, hrows⟩ := exists_summaryRows h hbound hlines hsub
  obtain ⟨percentage, -, hfull⟩ := exists_fullRows hrows
  have htable : (summaryTable rows).IsPrintable := by
    rw [hfull]
    exact isPrintable_summaryTable (joiner_not_mem_fullRows _ _ _)
  obtain ⟨lines, hprint⟩ := htable.exists_printTable terminal
  exact ⟨lines, by rw [summaryLines, hrows, ok_bind, hprint]⟩

structure IsSmallGroup (g : Group) : Prop where
  lineCount : IsSmall g.lineCount
  duplicatedLines : IsSmall g.duplicatedLines
  occurrences : ∀ o ∈ g.occurrences, IsSmall o.firstLine ∧ IsSmall o.lastLine

structure IsUnpairedGroup (g : Group) : Prop where
  paths : ∀ o ∈ g.occurrences, PrintsUnpaired o.path.toList
  sample : ∀ line ∈ g.sample, PrintsUnpaired line

theorem exists_occurrenceLines {o : Occurrence} (hfirst : IsSmall o.firstLine)
    (hlast : IsSmall o.lastLine) (hpath : PrintsUnpaired o.path.toList) :
    ∃ lines, occurrenceLines terminal o = .ok lines := by
  have htext : PrintsUnpaired ("  " ++ o.path ++ ":" ++ toString o.firstLine ++ "-" ++
      toString o.lastLine).toList := by
    simp only [String.toList_append]
    exact ((((hpath.of_not_mem_append (by decide)).append_of_not_mem (by decide)).append_of_not_mem
      (joiner_not_mem_toString_int _)).append_of_not_mem (by decide)).append_of_not_mem
      (joiner_not_mem_toString_int _)
  obtain ⟨lines, hlines⟩ := exists_printPlain htext terminal
  refine ⟨lines, ?_⟩
  rw [occurrenceLines, intText_of_isSmall hfirst, intText_of_isSmall hlast]
  exact hlines

theorem exists_groupHeading (hseverity : g.severity = .critical ∨ g.severity = .tolerable)
    (h : IsSmallGroup g) (position : Nat) :
    ∃ t, groupHeading position g = .ok t ∧ t.IsPrintable := by
  obtain ⟨style, hstyle, hmem⟩ : ∃ style, severityStyle g.severity = .ok style ∧
      style ∈ ["bold", "bold red", "yellow"] := by
    rcases hseverity with h | h
    · exact ⟨"bold red", by rw [h]; rfl, by decide⟩
    · exact ⟨"yellow", by rw [h]; rfl, by decide⟩
  have hlabel : joiner ∉ g.severity.label.toUpper.toList := by
    rcases hseverity with h | h
    · rw [h]
      decide +kernel
    · rw [h]
      decide +kernel
  refine ⟨_, by rw [groupHeading, hstyle, intText_of_isSmall h.lineCount,
    intText_of_isSmall h.duplicatedLines]; rfl, isPrintable_labelled hmem ?_⟩
  simp only [String.toList_append, List.mem_append, not_or]
  exact ⟨⟨⟨⟨by decide, joiner_not_mem_toString_nat position⟩, by decide⟩, hlabel⟩,
    ⟨⟨⟨⟨⟨⟨by decide, joiner_not_mem_toString_int _⟩, by decide⟩, joiner_not_mem_toString_nat _⟩,
      by decide⟩, joiner_not_mem_toString_int _⟩, by decide⟩⟩

theorem exists_sampleLines (h : ∀ line ∈ g.sample, PrintsUnpaired line) :
    ∃ lines, sampleLines terminal g = .ok lines := by
  have hline : ∀ line ∈ g.sample, ∃ lines,
      printText terminal (.ofText (Text.withEmoji (' ' :: ' ' :: line))) = .ok lines := by
    intro line hmem
    have htext : PrintsUnpaired ([' ', ' '] ++ line) := (h line hmem).of_not_mem_append (by decide)
    exact (isPrintable_withEmoji htext).exists_printText terminal
  unfold sampleLines
  split
  · exact ⟨[], rfl⟩
  · refine exists_bind (exists_printPlain (by decide) terminal) fun _ _ =>
      exists_bind (exists_mapM hline) fun _ _ => ?_
    dsimp only
    split
    · exact exists_bind (isPrintable_ellipsis.exists_printText terminal) fun _ _ => ⟨_, rfl⟩
    · exact ⟨_, rfl⟩

theorem exists_groupLines (hseverity : g.severity = .critical ∨ g.severity = .tolerable)
    (hsmall : IsSmallGroup g) (htexts : IsUnpairedGroup g) (position : Nat) :
    ∃ lines, groupLines terminal position g = .ok lines := by
  obtain ⟨heading, hheading, hprintable⟩ := exists_groupHeading hseverity hsmall position
  have hoccurrence : ∀ o ∈ g.occurrences, ∃ lines, occurrenceLines terminal o = .ok lines :=
    fun o ho => exists_occurrenceLines (hsmall.occurrences o ho).1 (hsmall.occurrences o ho).2
      (htexts.paths o ho)
  unfold groupLines
  rw [hheading, ok_bind]
  exact exists_bind (hprintable.exists_printText terminal) fun _ _ =>
    exists_bind (exists_mapM hoccurrence) fun _ _ =>
    exists_bind (exists_sampleLines htexts.sample) fun _ _ => ⟨_, rfl⟩

theorem exists_hintLines (count : Nat) {total : Int} (h : IsSmall total) :
    ∃ lines, hintLines terminal count total = .ok lines := by
  have htext : joiner ∉ ("Showing top " ++ toString count ++ " of " ++ toString total ++
      " duplicate groups.").toList := by
    simp only [String.toList_append, List.mem_append, not_or]
    exact ⟨⟨⟨⟨by decide, joiner_not_mem_toString_nat count⟩, by decide⟩,
      joiner_not_mem_toString_int total⟩, by decide⟩
  unfold hintLines
  split
  · exact ⟨[], rfl⟩
  · rw [intText_of_isSmall h, ok_bind]
    exact exists_bind (exists_printPlain (printsUnpaired_of_not_mem htext) terminal) fun _ _ =>
      exists_bind (exists_printPlain (by decide) terminal) fun _ _ => ⟨_, rfl⟩

theorem exists_detailLines {total : Int} (h : Magnitude files groups bound) (hbound : bound < 2 ^ 256)
    (hlines : (summarize files groups).totalLines < 2 ^ 256) (hsub : shown.Sublist groups)
    (hseverity : ∀ g ∈ shown, g.severity = .critical ∨ g.severity = .tolerable)
    (hsmall : ∀ g ∈ shown, IsSmallGroup g) (htexts : ∀ g ∈ shown, IsUnpairedGroup g)
    (htotal : IsSmall total) :
    ∃ lines, detailLines terminal (summarize files groups) shown total = .ok lines := by
  have hblock : ∀ entry ∈ shown.zipIdx 1, ∃ lines : List Line,
      groupLines terminal entry.2 entry.1 = .ok lines := by
    intro entry hentry
    have hg := List.fst_mem_of_mem_zipIdx hentry
    exact exists_groupLines (hseverity _ hg) (hsmall _ hg) (htexts _ hg) entry.2
  obtain ⟨summary, hsummary⟩ := exists_summaryLines terminal h hbound hlines hsub
  rw [detailLines, hsummary, ok_bind]
  split
  · exact ⟨summary, rfl⟩
  · exact exists_bind (isPrintable_groupsHeading.exists_printText terminal) fun _ _ =>
      exists_bind (exists_mapM hblock) fun _ _ =>
      exists_bind (exists_hintLines _ htotal) fun _ _ => ⟨_, rfl⟩

end Duplicates

end SourceCensus.Report
