import SourceCensus.Command.Execution
import SourceCensus.Proofs.Duplication.Magnitudes
import SourceCensus.Proofs.Report.Numbers

/-! # The table of a search -/

namespace SourceCensus

namespace Duplication

variable {files : List CodeFile} {groups shown : List Group} {k m bound : Int}

theorem severity_of_mem_emitted {e : Emission} (he : e ∈ emitted k m files) :
    e.group.severity = .critical ∨ e.group.severity = .tolerable := by
  obtain ⟨b, rfl, -⟩ := mem_emitted.mp he
  change Severity.ofCount _ = _ ∨ Severity.ofCount _ = _
  unfold Severity.ofCount
  split
  · exact .inl rfl
  · exact .inr rfl

theorem severity_of_mem_byKey_emitted {g : Group}
    (hg : g ∈ byKey ((emitted k m files).map Emission.group)) :
    g.severity = .critical ∨ g.severity = .tolerable := by
  obtain ⟨e, he, rfl⟩ := List.mem_map.mp ((perm_byKey _).mem_iff.mp hg)
  exact severity_of_mem_emitted he

theorem ofSeverity_tolerable (h : ∀ g ∈ groups, g.severity = .critical ∨ g.severity = .tolerable) :
    ofSeverity .tolerable groups = groups.filter (! ·.severity == .critical) := by
  apply List.filter_congr
  intro g hg
  rcases h g hg with hcritical | htolerable
  · rw [hcritical]
    rfl
  · rw [htolerable]
    rfl

theorem breakdown_groups (h : ∀ g ∈ groups, g.severity = .critical ∨ g.severity = .tolerable) :
    (breakdown groups).criticalGroups + (breakdown groups).tolerableGroups = groups.length := by
  have hlength := groups.length_eq_length_filter_add (·.severity == .critical)
  simp only [breakdown, ofSeverity_tolerable h]
  exact_mod_cast hlength.symm

theorem breakdown_lines (h : ∀ g ∈ groups, g.severity = .critical ∨ g.severity = .tolerable) :
    (breakdown groups).criticalLines + (breakdown groups).tolerableLines =
      Sequence.total (groups.map Group.duplicatedLines) := by
  simp only [breakdown, ofSeverity_tolerable h]
  exact Sequence.total_filter_add_total_filter_not _ _ _

namespace Magnitude

variable (h : Magnitude files groups bound)
include h

theorem group_duplicatedLines_nonneg {g : Group} (hg : g ∈ groups) : 0 ≤ g.duplicatedLines := by
  have hcount := h.lineCount_pos g hg
  have hplaces := h.occurrences_pos g hg
  exact mul_nonneg (by omega) (by omega)

theorem total_nonneg {some : List Group} (hsub : some.Sublist groups) :
    0 ≤ Sequence.total (some.map Group.duplicatedLines) := by
  have hle := Sequence.total_le_of_sublist (List.nil_sublist (some.map Group.duplicatedLines))
  apply hle
  intro n hn
  obtain ⟨g, hg, rfl⟩ := List.mem_map.mp hn
  exact h.group_duplicatedLines_nonneg (hsub.subset hg)

theorem total_le {some : List Group} (hsub : some.Sublist groups) :
    Sequence.total (some.map Group.duplicatedLines) ≤ bound := by
  refine Int.le_trans (Sequence.total_le_of_sublist (hsub.map _) ?_) h.duplicatedLines_le
  intro n hn
  obtain ⟨g, hg, rfl⟩ := List.mem_map.mp hn
  exact h.group_duplicatedLines_nonneg hg

theorem largestBlock_nonneg : 0 ≤ (summarize files groups).largestBlock := by
  simp only [summarize]
  cases hmax : (groups.map (·.lineCount)).max? with
  | none => exact Int.le_refl 0
  | some n =>
    obtain ⟨g, hg, rfl⟩ := List.mem_map.mp (List.max?_eq_some_iff.mp hmax).1
    exact Int.le_trans (by decide) (h.lineCount_pos g hg)

theorem largestBlock_le : (summarize files groups).largestBlock ≤ bound := by
  simp only [summarize]
  cases hmax : (groups.map (·.lineCount)).max? with
  | none => exact Int.le_trans (Int.natCast_nonneg groups.length) h.groups_le
  | some n =>
    obtain ⟨g, hg, rfl⟩ := List.mem_map.mp (List.max?_eq_some_iff.mp hmax).1
    exact h.lineCount_le g hg

end Magnitude

end Duplication

namespace Report

open Duplication

variable {rows : List SummaryRow} {label : String} {m : Metrics} {groups shown : List Group}
  {x : Number.Binary64}

/-- What the row of a severity says of a number of groups and their lines. -/
def remark (groups lines : Nat) : String :=
  toString groups ++ " groups, " ++ toString lines ++ " lines"

theorem remark_inj {g l g' l' : Nat} (h : remark g l = remark g' l') : g = g' ∧ l = l' := by
  have hgroups : " groups, ".toList = ' ' :: "groups, ".toList := rfl
  have hlines : " lines".toList = ' ' :: "lines".toList := rfl
  have hchars := congrArg String.toList h
  simp only [remark, String.toList_append, List.append_assoc, hgroups, List.cons_append] at hchars
  obtain ⟨hg, hrest⟩ := eq_of_toString_append_blank hchars
  have hrest' := List.append_cancel_left hrest
  rw [hlines] at hrest'
  exact ⟨hg, (eq_of_toString_append_blank hrest').1⟩

/-- Rows show how many groups have a severity and how many lines these have.  No row says that there
are none. -/
inductive Shows (rows : List SummaryRow) (label : String) : Nat → Nat → Prop where
  | absent (h : rows.lookup label = none) : Shows rows label 0 0
  | present {groups lines : Nat} (hpos : 0 < groups)
      (h : rows.lookup label = some (remark groups lines)) : Shows rows label groups lines

theorem Shows.unique {g l g' l' : Nat} (h : Shows rows label g l) (h' : Shows rows label g' l') :
    g = g' ∧ l = l' := by
  cases h with
  | absent h =>
    cases h' with
    | absent => exact ⟨rfl, rfl⟩
    | present _ h' =>
      rw [h] at h'
      cases h'
  | present _ h =>
    cases h' with
    | absent h' =>
      rw [h'] at h
      cases h
    | present _ h' =>
      rw [h] at h'
      exact remark_inj (Option.some.inj h')

/-- The critical and the tolerable groups and lines that rows show add up to the groups and the lines
that they show. -/
def AddsUp (rows : List SummaryRow) : Prop :=
  ∃ critical tolerable criticalLines tolerableLines : Nat,
    Shows rows "Critical duplicates (3+)" critical criticalLines ∧
    Shows rows "Tolerable duplicates (2x)" tolerable tolerableLines ∧
    rows.lookup "Duplicate groups" = some (toString (critical + tolerable)) ∧
    rows.lookup "Duplicated lines" = some (toString (criticalLines + tolerableLines))

/-- The row of a severity, its numbers written in full. -/
def severityCells (label : String) (groups lines : Int) : List SummaryRow :=
  if groups = 0 then [] else [(label, toString groups ++ " groups, " ++ toString lines ++ " lines")]

/-- The row of the largest block, its number written in full. -/
def largestCells (m : Metrics) : List SummaryRow :=
  if m.largestBlock ≤ 0 then [] else [("Largest duplicate", toString m.largestBlock ++ " lines")]

def fullRows (m : Metrics) (b : Breakdown) (percentage : Number.Binary64) : List SummaryRow :=
  [("Total code lines", toString m.totalLines), ("Duplicated lines", toString m.duplicatedLines),
    ("Duplication", percentage.fixedText ++ "%"), ("Duplicate groups", toString m.groups),
    ("Files with duplicates", toString m.files)] ++ largestCells m ++
    severityCells "Critical duplicates (3+)" b.criticalGroups b.criticalLines ++
    severityCells "Tolerable duplicates (2x)" b.tolerableGroups b.tolerableLines ++
    [("Assessment", (Assessment.ofPercentage percentage).label)]

theorem eq_severityCells {groups lines : Int} (h : severityRow label groups lines = .ok rows) :
    rows = severityCells label groups lines := by
  unfold severityRow at h
  unfold severityCells
  split at h
  · rename_i hzero
    rw [if_pos hzero]
    exact (Except.ok.inj h).symm
  · rename_i hzero
    obtain ⟨g, hg, h⟩ := bind_eq_ok_iff.mp h
    obtain ⟨l, hl, h⟩ := bind_eq_ok_iff.mp h
    rw [if_neg hzero, ← eq_toString_of_intText hg, ← eq_toString_of_intText hl]
    exact (Except.ok.inj h).symm

theorem severityRow_of_isSmall {groups lines : Int} (hg : IsSmall groups) (hl : IsSmall lines) :
    severityRow label groups lines = .ok (severityCells label groups lines) := by
  unfold severityRow severityCells
  split
  · rfl
  · rw [intText_of_isSmall hg, intText_of_isSmall hl]
    rfl

theorem eq_largestCells (h : largestRow m = .ok rows) : rows = largestCells m := by
  unfold largestRow at h
  unfold largestCells
  split at h
  · rename_i hnone
    rw [if_pos hnone]
    exact (Except.ok.inj h).symm
  · rename_i hnone
    obtain ⟨n, hn, h⟩ := bind_eq_ok_iff.mp h
    rw [if_neg hnone, ← eq_toString_of_intText hn]
    exact (Except.ok.inj h).symm

theorem largestRow_of_isSmall (h : IsSmall m.largestBlock) : largestRow m = .ok (largestCells m) := by
  unfold largestRow largestCells
  split
  · rfl
  · rw [intText_of_isSmall h]
    rfl

theorem exists_fullRows (h : summaryRows m groups = .ok rows) :
    ∃ percentage, percentageOf m = .ok percentage ∧
      rows = fullRows m (breakdown groups) percentage := by
  obtain ⟨percentage, hpercentage, h⟩ := bind_eq_ok_iff.mp h
  obtain ⟨total, htotal, h⟩ := bind_eq_ok_iff.mp h
  obtain ⟨lines, hlines, h⟩ := bind_eq_ok_iff.mp h
  obtain ⟨count, hcount, h⟩ := bind_eq_ok_iff.mp h
  obtain ⟨files, hfiles, h⟩ := bind_eq_ok_iff.mp h
  obtain ⟨largest, hlargest, h⟩ := bind_eq_ok_iff.mp h
  obtain ⟨critical, hcritical, h⟩ := bind_eq_ok_iff.mp h
  obtain ⟨tolerable, htolerable, h⟩ := bind_eq_ok_iff.mp h
  refine ⟨percentage, hpercentage, ?_⟩
  rw [← Except.ok.inj h, fullRows, eq_toString_of_intText htotal, eq_toString_of_intText hlines,
    eq_toString_of_intText hcount, eq_toString_of_intText hfiles, eq_largestCells hlargest,
    eq_severityCells hcritical, eq_severityCells htolerable]

structure IsSmallMetrics (m : Metrics) : Prop where
  totalLines : IsSmall m.totalLines
  duplicatedLines : IsSmall m.duplicatedLines
  groups : IsSmall m.groups
  files : IsSmall m.files
  largestBlock : IsSmall m.largestBlock

theorem summaryRows_of_isSmall (hm : IsSmallMetrics m)
    (hcritical : IsSmall (breakdown groups).criticalGroups)
    (hcriticalLines : IsSmall (breakdown groups).criticalLines)
    (htolerable : IsSmall (breakdown groups).tolerableGroups)
    (htolerableLines : IsSmall (breakdown groups).tolerableLines) :
    ∃ rows, summaryRows m groups = .ok rows := by
  obtain ⟨percentage, hpercentage⟩ := exists_percentageOf hm.duplicatedLines
  refine ⟨fullRows m (breakdown groups) percentage, ?_⟩
  simp only [summaryRows, hpercentage, ok_bind, intText_of_isSmall hm.totalLines,
    intText_of_isSmall hm.duplicatedLines, intText_of_isSmall hm.groups,
    intText_of_isSmall hm.files, largestRow_of_isSmall hm.largestBlock,
    severityRow_of_isSmall hcritical hcriticalLines,
    severityRow_of_isSmall htolerable htolerableLines]
  rfl

section Lookup

variable (m : Metrics) (b : Breakdown) (percentage : Number.Binary64)

theorem lookup_critical : (fullRows m b percentage).lookup "Critical duplicates (3+)" =
    (severityCells "Critical duplicates (3+)" b.criticalGroups b.criticalLines).lookup
      "Critical duplicates (3+)" := by
  unfold fullRows largestCells severityCells
  split_ifs <;> rfl

theorem lookup_tolerable : (fullRows m b percentage).lookup "Tolerable duplicates (2x)" =
    (severityCells "Tolerable duplicates (2x)" b.tolerableGroups b.tolerableLines).lookup
      "Tolerable duplicates (2x)" := by
  unfold fullRows largestCells severityCells
  split_ifs <;> rfl

end Lookup

/-- A row shows the numbers of the groups of its severity. -/
theorem shows_severityCells
    (h : rows.lookup label = (severityCells label groups.length
      (Sequence.total (groups.map Group.duplicatedLines))).lookup label)
    (hnonneg : 0 ≤ Sequence.total (groups.map Group.duplicatedLines)) :
    Shows rows label groups.length (Sequence.total (groups.map Group.duplicatedLines)).toNat := by
  cases groups with
  | nil => exact .absent h
  | cons g rest =>
    refine .present (Nat.succ_pos _) (h.trans ?_)
    rw [severityCells, if_neg (by rw [List.length_cons]; omega), List.lookup_cons_self, remark,
      toString_toNat hnonneg]
    rfl

section AddingUp

variable {percentage : Number.Binary64} (h : ∀ g ∈ groups, 0 ≤ g.duplicatedLines)
include h

theorem lines_nonneg (severity : Severity) :
    0 ≤ Sequence.total ((ofSeverity severity groups).map Group.duplicatedLines) := by
  apply Sequence.total_le_of_sublist (List.nil_sublist _)
  intro n hn
  obtain ⟨g, hg, rfl⟩ := List.mem_map.mp hn
  exact h g (List.mem_of_mem_filter hg)

/-- The rows made of some groups add up exactly when the numbers of the groups do. -/
theorem addsUp_fullRows (hgroups : 0 ≤ m.groups) (hlines : 0 ≤ m.duplicatedLines) :
    AddsUp (fullRows m (breakdown groups) percentage) ↔
      (breakdown groups).criticalGroups + (breakdown groups).tolerableGroups = m.groups ∧
      (breakdown groups).criticalLines + (breakdown groups).tolerableLines = m.duplicatedLines := by
  have hcritical := shows_severityCells (lookup_critical m (breakdown groups) percentage)
    (lines_nonneg h .critical)
  have htolerable := shows_severityCells (lookup_tolerable m (breakdown groups) percentage)
    (lines_nonneg h .tolerable)
  have hcount : (fullRows m (breakdown groups) percentage).lookup "Duplicate groups" =
      some (toString m.groups.toNat) := by
    rw [toString_toNat hgroups]
    rfl
  have htotal : (fullRows m (breakdown groups) percentage).lookup "Duplicated lines" =
      some (toString m.duplicatedLines.toNat) := by
    rw [toString_toNat hlines]
    rfl
  have hnonneg := lines_nonneg h .critical
  have hnonneg' := lines_nonneg h .tolerable
  constructor
  · rintro ⟨c, t, cl, tl, hc, ht, hgroup, hline⟩
    obtain ⟨rfl, rfl⟩ := hc.unique hcritical
    obtain ⟨rfl, rfl⟩ := ht.unique htolerable
    have hg := eq_of_toString_eq (Option.some.inj (hcount.symm.trans hgroup))
    have hl := eq_of_toString_eq (Option.some.inj (htotal.symm.trans hline))
    simp only [breakdown]
    omega
  · rintro ⟨hg, hl⟩
    simp only [breakdown] at hg hl
    refine ⟨_, _, _, _, hcritical, htolerable, ?_, ?_⟩
    · rw [hcount]
      congr 2
      omega
    · rw [htotal]
      congr 2
      omega

end AddingUp

/-- The metrics of a search of moderate size. -/
theorem isSmallMetrics_of_magnitude {files : List CodeFile} {bound : Int}
    (h : Magnitude files groups bound) (hbound : bound < 2 ^ 256)
    (hlines : (summarize files groups).totalLines < 2 ^ 256) :
    IsSmallMetrics (summarize files groups) where
  totalLines := .of_nonneg_of_le totalLines_nonneg (Int.le_refl _) hlines
  duplicatedLines :=
    .of_nonneg_of_le (h.total_nonneg (List.Sublist.refl _)) h.duplicatedLines_le hbound
  groups := .of_nonneg_of_le (Int.natCast_nonneg _) h.groups_le hbound
  files := .of_nonneg_of_le (Int.natCast_nonneg _) h.files_le hbound
  largestBlock := .of_nonneg_of_le h.largestBlock_nonneg h.largestBlock_le hbound

/-- The rows made of some groups of a search can be told where the search is of moderate size. -/
theorem exists_summaryRows {files : List CodeFile} {bound : Int} (h : Magnitude files groups bound)
    (hbound : bound < 2 ^ 256) (hlines : (summarize files groups).totalLines < 2 ^ 256)
    (hsub : shown.Sublist groups) :
    ∃ rows, summaryRows (summarize files groups) shown = .ok rows := by
  have hlength (severity : Severity) : IsSmall (ofSeverity severity shown).length :=
    .of_nonneg_of_le (Int.natCast_nonneg _)
      (Int.le_trans (Int.ofNat_le.mpr (List.filter_sublist.trans hsub).length_le) h.groups_le) hbound
  have htotal (severity : Severity) :
      IsSmall (Sequence.total ((ofSeverity severity shown).map Group.duplicatedLines)) :=
    .of_nonneg_of_le (h.total_nonneg (List.filter_sublist.trans hsub))
      (h.total_le (List.filter_sublist.trans hsub)) hbound
  exact summaryRows_of_isSmall (isSmallMetrics_of_magnitude h hbound hlines) (hlength .critical)
    (htotal .critical) (hlength .tolerable) (htotal .tolerable)

end Report

end SourceCensus
