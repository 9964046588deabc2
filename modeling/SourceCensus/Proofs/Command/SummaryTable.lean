import SourceCensus.Proofs.Report.Summary

/-! # The table of the two reports on duplicates -/

namespace SourceCensus.Command

open Report Duplication

variable {options : Options} {files : List CodeFile} {groups : List Group}

/-- Groups are left out of the detailed report. -/
def Options.Hides (options : Options) (groups : List Group) : Prop :=
  options.showAll = false ∧ groupLimit < groups.length

instance : Decidable (options.Hides groups) :=
  inferInstanceAs (Decidable (_ ∧ _))

def tableRows (options : Options) (files : List CodeFile) (groups : List Group) :
    Except ReportFault (List SummaryRow) :=
  summaryRows (summarize files groups) (if options.report then shownGroups options groups else groups)

def tableLines (rows : Except ReportFault (List SummaryRow)) : Except ReportFault (List Line) := do
  printTable terminal (summaryTable (← rows))

theorem shownGroups_eq_self (h : ¬ options.Hides groups) : shownGroups options groups = groups := by
  unfold Options.Hides at h
  unfold shownGroups displayLimit
  apply List.take_of_length_le
  cases hall : options.showAll with
  | true => simp
  | false =>
    rw [hall] at h
    simp only [true_and, Int.not_lt] at h
    simp only [Bool.false_eq_true, if_false]
    omega

theorem length_shownGroups (h : options.Hides groups) :
    ((shownGroups options groups).length : Int) = groupLimit := by
  obtain ⟨hall, hlt⟩ := h
  have hpos : (0 : Int) ≤ groupLimit := by decide
  rw [shownGroups, displayLimit, hall, List.length_take]
  simp only [Bool.false_eq_true, if_false]
  omega

theorem sublist_shownGroups (options : Options) (groups : List Group) :
    (shownGroups options groups).Sublist groups :=
  List.take_sublist _ _

theorem duplicateLines_plain (hne : files ≠ []) (groups : List Group) :
    duplicateLines { options with report := false } files groups =
      tableLines (tableRows { options with report := false } files groups) := by
  rw [duplicateLines, List.isEmpty_eq_false_iff.mpr hne]
  rfl

theorem duplicateLines_detailed (hne : files ≠ []) (groups : List Group) :
    ∃ rest : Except ReportFault (List Line),
      duplicateLines { options with report := true } files groups = do
        let table ← tableLines (tableRows { options with report := true } files groups)
        return table ++ (← rest) := by
  let shown := shownGroups { options with report := true } groups
  have hlines : duplicateLines { options with report := true } files groups =
      detailLines terminal (summarize files groups) shown groups.length := by
    rw [duplicateLines, List.isEmpty_eq_false_iff.mpr hne]
    rfl
  have htable : tableLines (tableRows { options with report := true } files groups) =
      summaryLines terminal (summarize files groups) shown := rfl
  rw [hlines, htable, detailLines]
  cases hshown : shown.isEmpty with
  | true => exact ⟨pure [], by simp⟩
  | false =>
    refine ⟨do
      let heading ← printText terminal groupsHeading
      let blocks ← (shown.zipIdx 1).mapM fun entry => groupLines terminal entry.2 entry.1
      let hint ← hintLines terminal shown.length groups.length
      return heading ++ blocks.flatten ++ separatorLines terminal ++ hint, ?_⟩
    simp only [Bool.false_eq_true, if_false, bind_assoc, pure_bind, List.append_assoc]

/-- The groups of a search, as many as there are and all numbered in small numbers. -/
theorem exists_detected (hk : 0 < options.minLines) (files : List CodeFile) :
    ∃ groups bound, (detect options.settings files).outcome = .ok groups ∧
      (∀ g ∈ groups, g.severity = .critical ∨ g.severity = .tolerable) ∧
      Magnitude files groups bound ∧
      bound ≤ (summarize files groups).totalLines * (summarize files groups).totalLines := by
  have hk' : 1 ≤ options.settings.minLines := hk
  have hm : 2 ≤ options.settings.maxOccurrences := (by decide : (2 : Int) ≤ 100)
  refine ⟨_, _, (finds_emitted options.settings hk' hm files).detected, ?_,
    magnitude_byKey_emitted hk' _ files, length_coveredLines_le_sq hk'⟩
  intro g hg
  exact severity_of_mem_byKey_emitted hg

section Tables

variable {bound : Int} {rows detailed : List SummaryRow}
  (hseverity : ∀ g ∈ groups, g.severity = .critical ∨ g.severity = .tolerable)
  (hmagnitude : Magnitude files groups bound)
include hseverity hmagnitude

theorem addsUp_of_plain (h : tableRows { options with report := false } files groups = .ok rows) :
    AddsUp rows := by
  obtain ⟨percentage, -, rfl⟩ := exists_fullRows h
  refine (addsUp_fullRows (fun g hg => hmagnitude.group_duplicatedLines_nonneg hg)
    (Int.natCast_nonneg _) (hmagnitude.total_nonneg (List.Sublist.refl _))).mpr ?_
  exact ⟨breakdown_groups hseverity, breakdown_lines hseverity⟩

theorem not_hides_of_addsUp
    (h : tableRows { options with report := true } files groups = .ok detailed)
    (hadds : AddsUp detailed) : ¬ options.Hides groups := by
  intro hhides
  let shown := shownGroups options groups
  have hsub : shown.Sublist groups := sublist_shownGroups options groups
  obtain ⟨percentage, -, rfl⟩ := exists_fullRows h
  obtain ⟨hgroups, -⟩ := (addsUp_fullRows
    (fun g hg => hmagnitude.group_duplicatedLines_nonneg (hsub.subset hg))
    (Int.natCast_nonneg _) (hmagnitude.total_nonneg (List.Sublist.refl _))).mp hadds
  have hshown := breakdown_groups fun g hg => hseverity g (hsub.subset hg)
  have hlength : (shown.length : Int) = groups.length := hshown.symm.trans hgroups
  have hlimit : (shown.length : Int) = groupLimit := length_shownGroups hhides
  have hlt := hhides.2
  omega

end Tables

/-- The detailed report on any search opens with the table of the plain report if no group is hidden.
The plain table adds up; where groups are hidden the detailed one does not, and is another one.  Both
tables can be told of a project with fewer than `2 ^ 128` lines. -/
theorem detailed_table_agrees_iff (options : Options) (files : List CodeFile)
    (hk : 0 < options.minLines) :
    ∃ groups, (detect options.settings files).outcome = .ok groups ∧
      (files ≠ [] →
        duplicateLines { options with report := false } files groups =
          tableLines (tableRows { options with report := false } files groups) ∧
        ∃ rest : Except ReportFault (List Line),
          duplicateLines { options with report := true } files groups = do
            let table ← tableLines (tableRows { options with report := true } files groups)
            return table ++ (← rest)) ∧
      (¬ options.Hides groups → tableRows { options with report := true } files groups =
        tableRows { options with report := false } files groups) ∧
      (∀ rows, tableRows { options with report := false } files groups = .ok rows →
        AddsUp rows ∧
        ∀ detailed, tableRows { options with report := true } files groups = .ok detailed →
          (detailed = rows ↔ ¬ options.Hides groups) ∧
          (AddsUp detailed ↔ ¬ options.Hides groups)) ∧
      ((summarize files groups).totalLines < 2 ^ 128 →
        (∃ rows, tableRows { options with report := false } files groups = .ok rows) ∧
        ∃ detailed, tableRows { options with report := true } files groups = .ok detailed) := by
  obtain ⟨groups, bound, hdetect, hseverity, hmagnitude, hbound⟩ := exists_detected hk files
  have hsame : ¬ options.Hides groups → tableRows { options with report := true } files groups =
      tableRows { options with report := false } files groups := by
    intro hhides
    have hshown : shownGroups { options with report := true } groups = groups :=
      shownGroups_eq_self hhides
    simp only [tableRows, hshown, if_true, Bool.false_eq_true, if_false]
  refine ⟨groups, hdetect, fun hne => ⟨duplicateLines_plain hne groups,
    duplicateLines_detailed hne groups⟩, hsame, fun rows hrows => ?_, fun hsmall => ?_⟩
  · have hadds := addsUp_of_plain hseverity hmagnitude hrows
    refine ⟨hadds, fun detailed hdetailed => ⟨?_, ?_⟩⟩
    · constructor
      · rintro rfl
        exact not_hides_of_addsUp hseverity hmagnitude hdetailed hadds
      · intro hhides
        rw [hsame hhides, hrows] at hdetailed
        exact (Except.ok.inj hdetailed).symm
    · constructor
      · exact not_hides_of_addsUp hseverity hmagnitude hdetailed
      · intro hhides
        rw [hsame hhides] at hdetailed
        exact addsUp_of_plain hseverity hmagnitude hdetailed
  · have hlines : (summarize files groups).totalLines < 2 ^ 256 := by omega
    have hsq : bound < 2 ^ 256 := by
      have hnonneg : 0 ≤ (summarize files groups).totalLines := totalLines_nonneg
      calc bound ≤ (summarize files groups).totalLines * (summarize files groups).totalLines := hbound
        _ ≤ (2 ^ 128 - 1) * (2 ^ 128 - 1) := by
          apply mul_le_mul <;> omega
        _ < 2 ^ 256 := by norm_num
    exact ⟨exists_summaryRows hmagnitude hsq hlines (List.Sublist.refl _),
      exists_summaryRows hmagnitude hsq hlines (sublist_shownGroups _ groups)⟩

/-- A project of two files: the lines of the second are those of the first in the opposite order, so
each of the 21 lines is a group of its own. -/
def crowdedFiles : List CodeFile :=
  let lines := (List.range 21).map fun i => [Char.ofNat (97 + i)]
  let file (name : String) (lines : List (List Char)) : CodeFile :=
    ⟨⟨.relative, [name]⟩, (lines.zipIdx 1).map fun (line, number) => ⟨number, line⟩⟩
  [file "a" lines, file "b" lines.reverse]

theorem length_detect_crowdedFiles :
    (detect { minLines := 1 } crowdedFiles).outcome.map List.length = .ok 21 := by
  have hlines : ((List.range 21).map fun i => [Char.ofNat (97 + i)]) =
      ['a', 'b', 'c', 'd', 'e', 'f', 'g', 'h', 'i', 'j', 'k', 'l', 'm', 'n', 'o', 'p', 'q', 'r', 's',
        't', 'u'].map ([·]) := by
    decide
  simp only [crowdedFiles, hlines]
  cbv

theorem hides_crowdedFiles (h : (detect { minLines := 1 } crowdedFiles).outcome = .ok groups) :
    ({ minLines := 1 } : Options).Hides groups := by
  have hlength := length_detect_crowdedFiles
  rw [h] at hlength
  refine ⟨rfl, ?_⟩
  rw [show groups.length = 21 from Except.ok.inj hlength]
  decide

/-- The plain table of the crowded project adds up, and the detailed one does not. -/
theorem crowdedFiles_tables_differ : ∃ groups rows detailed,
    (detect { minLines := 1 } crowdedFiles).outcome = .ok groups ∧
    tableRows { minLines := 1, report := false } crowdedFiles groups = .ok rows ∧
    tableRows { minLines := 1, report := true } crowdedFiles groups = .ok detailed ∧
    AddsUp rows ∧ ¬ AddsUp detailed ∧ detailed ≠ rows := by
  obtain ⟨groups, hdetect, -, -, hagree, htold⟩ :=
    detailed_table_agrees_iff { minLines := 1 } crowdedFiles (by decide)
  obtain ⟨⟨rows, hrows⟩, detailed, hdetailed⟩ :=
    htold (by decide : Sequence.total (crowdedFiles.map fun file => (file.lines.length : Int)) < _)
  obtain ⟨hadds, hdetailedAgrees⟩ := hagree rows hrows
  obtain ⟨hsame, haddsUp⟩ := hdetailedAgrees detailed hdetailed
  have hhides := hides_crowdedFiles hdetect
  exact ⟨groups, rows, detailed, hdetect, hrows, hdetailed, hadds,
    fun h => haddsUp.mp h hhides, fun h => hsame.mp h hhides⟩

/-- With groups hidden the tables differ: the search of the crowded project for single lines finds 21
groups, and the detailed table makes the severities of 20 of them. -/
theorem not_all_tables_agree : ¬ ∀ (options : Options) (files : List CodeFile),
    0 < options.minLines →
    ∃ groups rows, (detect options.settings files).outcome = .ok groups ∧
      tableRows { options with report := false } files groups = .ok rows ∧
      tableRows { options with report := true } files groups = .ok rows ∧ AddsUp rows := by
  intro hall
  obtain ⟨groups, rows, hdetect, -, hdetailed, hadds⟩ :=
    hall { minLines := 1 } crowdedFiles (by decide)
  obtain ⟨groups', bound, hdetect', hseverity, hmagnitude, -⟩ :=
    exists_detected (by decide : 0 < ({ minLines := 1 } : Options).minLines) crowdedFiles
  obtain rfl := Except.ok.inj (hdetect.symm.trans hdetect')
  exact not_hides_of_addsUp hseverity hmagnitude hdetailed hadds (hides_crowdedFiles hdetect)

end SourceCensus.Command
