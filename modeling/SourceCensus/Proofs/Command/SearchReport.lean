import SourceCensus.Proofs.Command.SummaryTable
import SourceCensus.Proofs.Duplication.Contents
import SourceCensus.Proofs.Report.Documents

/-! # The report on duplicates can be told -/

namespace SourceCensus.Command

open Report Duplication

variable {options : Options} {files : List CodeFile} {groups : List Group}

theorem drawn_of_detect (hk : 0 < options.minLines)
    (h : (detect options.settings files).outcome = .ok groups) :
    ∀ g ∈ groups, IsDrawnFrom files g := by
  have hk' : 1 ≤ options.settings.minLines := hk
  have hm : 2 ≤ options.settings.maxOccurrences := (by decide : (2 : Int) ≤ 100)
  have hfound := (finds_emitted options.settings hk' hm files).detected
  rw [h] at hfound
  intro g hg
  rw [Except.ok.inj hfound] at hg
  obtain ⟨e, he, rfl⟩ := List.mem_map.mp ((perm_byKey _).mem_iff.mp hg)
  exact isDrawnFrom_of_mem_emitted hk' he

/-- Files with few lines and small line numbers. -/
structure IsModerate (files : List CodeFile) : Prop where
  lines : Sequence.total (files.map fun file => (file.lines.length : Int)) < 2 ^ 100
  numbers : ∀ line, IsLineOf files line → IsSmall line.number

/-- Files in whose paths and code lines no joiners meet. -/
structure IsUnpairedProject (files : List CodeFile) : Prop where
  paths : ∀ file ∈ files, PrintsUnpaired file.path.text.toList
  lines : ∀ line, IsLineOf files line → PrintsUnpaired line.text

theorem isUnpairedGroup_of_drawn {g : Group} (h : IsDrawnFrom files g)
    (htexts : IsUnpairedProject files) : IsUnpairedGroup g := by
  constructor
  · intro o ho
    obtain ⟨file, hfile, hpath⟩ := h.paths o ho
    rw [hpath]
    exact htexts.paths file hfile
  · intro text htext
    obtain ⟨line, hline, rfl⟩ := h.sample text htext
    exact htexts.lines line hline

section Reports

variable (hk : 0 < options.minLines) (hfiles : IsModerate files)
  (hgroups : (detect options.settings files).outcome = .ok groups)
include hk hfiles hgroups

/-- The groups of a search of moderate files. -/
theorem exists_magnitude : ∃ bound, bound < 2 ^ 256 ∧ Magnitude files groups bound ∧
    ∀ g ∈ groups, g.severity = .critical ∨ g.severity = .tolerable := by
  obtain ⟨found, bound, hfound, hseverity, hmagnitude, hbound⟩ := exists_detected hk files
  rw [hgroups] at hfound
  obtain rfl : groups = found := Except.ok.inj hfound
  refine ⟨bound, ?_, hmagnitude, hseverity⟩
  have hlines : (summarize files groups).totalLines < 2 ^ 100 := hfiles.lines
  calc bound ≤ (summarize files groups).totalLines * (summarize files groups).totalLines := hbound
    _ ≤ 2 ^ 100 * 2 ^ 100 := mul_le_mul hlines.le hlines.le totalLines_nonneg (by decide)
    _ < 2 ^ 256 := by decide

theorem isSmallGroup_of_detect : ∀ g ∈ groups, IsSmallGroup g := by
  obtain ⟨bound, hbound, hmagnitude, -⟩ := exists_magnitude hk hfiles hgroups
  intro g hg
  have hdrawn := drawn_of_detect hk hgroups g hg
  constructor
  · exact .of_nonneg_of_le (Int.le_trans (by decide) (hmagnitude.lineCount_pos g hg))
      (hmagnitude.lineCount_le g hg) hbound
  · have htotal := hmagnitude.total_le (List.singleton_sublist.mpr hg)
    simp only [List.map_singleton, Sequence.total_cons, Sequence.total_nil, Int.add_zero] at htotal
    exact .of_nonneg_of_le (hmagnitude.group_duplicatedLines_nonneg hg) htotal hbound
  · intro o ho
    obtain ⟨first, hfirst, hnumber⟩ := hdrawn.first o ho
    obtain ⟨last, hlast, hnumber'⟩ := hdrawn.last o ho
    rw [hnumber, hnumber']
    exact ⟨hfiles.numbers first hfirst, hfiles.numbers last hlast⟩

theorem exists_duplicateDocument :
    ∃ document, duplicateDocument options files groups = .ok document ∧ document.IsSmall := by
  obtain ⟨bound, hbound, hmagnitude, -⟩ := exists_magnitude hk hfiles hgroups
  have hlines : (summarize files groups).totalLines < 2 ^ 256 :=
    Int.lt_trans hfiles.lines (by decide)
  exact exists_duplicationDocument (isSmallMetrics_of_magnitude hmagnitude hbound hlines)
    fun g hg => isSmallGroup_of_detect hk hfiles hgroups g ((sublist_shownGroups options groups).subset hg)

/-- The report can be printed: the detailed one if no joiners meet in the texts that it shows. -/
theorem exists_duplicateLines (htexts : options.report = true → IsUnpairedProject files) :
    ∃ lines, duplicateLines options files groups = .ok lines := by
  obtain ⟨bound, hbound, hmagnitude, hseverity⟩ := exists_magnitude hk hfiles hgroups
  have hlines : (summarize files groups).totalLines < 2 ^ 256 :=
    Int.lt_trans hfiles.lines (by decide)
  have hsub := sublist_shownGroups options groups
  unfold duplicateLines
  dsimp only
  split_ifs with hempty hreport
  · exact exists_nothingFound terminal
  · have htotal : IsSmall (groups.length : Int) :=
      .of_nonneg_of_le (Int.natCast_nonneg _) hmagnitude.groups_le hbound
    exact exists_detailLines hmagnitude hbound hlines hsub
      (fun g hg => hseverity g (hsub.subset hg))
      (fun g hg => isSmallGroup_of_detect hk hfiles hgroups g (hsub.subset hg))
      (fun g hg => isUnpairedGroup_of_drawn (drawn_of_detect hk hgroups g (hsub.subset hg))
        (htexts hreport)) htotal
  · exact exists_summaryLines terminal hmagnitude hbound hlines (List.Sublist.refl _)

end Reports

end SourceCensus.Command
