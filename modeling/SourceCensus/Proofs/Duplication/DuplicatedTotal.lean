import Mathlib.Data.List.Dedup
import Mathlib.Tactic.Ring
import SourceCensus.Duplication.Metrics
import SourceCensus.Proofs.Duplication.WindowPartition
import SourceCensus.Proofs.Duplication.WindowSizes

/-! # The total of duplicated lines for smaller windows -/

namespace SourceCensus.Duplication

open LocationSet (shift)

section Rows

variable {α : Type} [DecidableEq α] {row : List α} {rows rows' : List (List α)}

private theorem length_dedup_flatten_le_of_split {outside : List (List α)}
    (h : ∀ r ∈ rows, r ⊆ row ∨ r ∈ outside) :
    rows.flatten.dedup.length ≤ row.length + outside.flatten.dedup.length := by
  have hsub : rows.flatten.dedup ⊆ row ++ outside.flatten.dedup := by
    intro a ha
    obtain ⟨r, hr, har⟩ := List.mem_flatten.mp (List.mem_dedup.mp ha)
    rcases h r hr with hin | hout
    · exact List.mem_append_left _ (hin har)
    · exact List.mem_append_right _ (List.mem_dedup.mpr (List.mem_flatten.mpr ⟨r, hout, har⟩))
  simpa using ((List.nodup_dedup _).subperm hsub).length_le

/-- Where each of some rows lies in one of other rows, the different items of the former are not more
than the items of the latter, with one row of the former for each row of the latter set off against
one item. -/
theorem length_dedup_flatten_le (hne : ∀ r ∈ rows', r ≠ []) (h : ∀ r ∈ rows, ∃ r' ∈ rows', r ⊆ r') :
    rows.flatten.dedup.length + rows'.length ≤ rows.length + rows'.flatten.length := by
  induction rows' generalizing rows with
  | nil =>
    obtain rfl : rows = [] := List.eq_nil_iff_forall_not_mem.mpr fun r hr => by simpa using h r hr
    simp
  | cons row rest ih =>
    let outside := rows.filter fun r => ¬ r ⊆ row
    have hrest : outside.flatten.dedup.length + rest.length ≤
        outside.length + rest.flatten.length := by
      refine ih (fun r hr => hne r (List.mem_cons_of_mem _ hr)) fun r hr => ?_
      obtain ⟨hrows, hnot⟩ := List.mem_filter.mp hr
      obtain ⟨r', hr', hsub⟩ := h r hrows
      rcases List.mem_cons.mp hr' with rfl | hmem
      · exact absurd hsub (by simpa using hnot)
      · exact ⟨r', hmem, hsub⟩
    have hpos := List.length_pos_iff.mpr (hne row List.mem_cons_self)
    rw [List.flatten_cons, List.length_append, List.length_cons]
    by_cases hall : ∀ r ∈ rows, ¬ r ⊆ row
    · have hsame : outside = rows := List.filter_eq_self.mpr fun r hr => by simpa using hall r hr
      rw [hsame] at hrest
      omega
    · push Not at hall
      obtain ⟨r, hr, hin⟩ := hall
      have hlt : outside.length < rows.length :=
        List.length_filter_lt_length_iff_exists.mpr ⟨r, hr, by simpa using hin⟩
      have hle : rows.flatten.dedup.length ≤ row.length + outside.flatten.dedup.length :=
        length_dedup_flatten_le_of_split fun r hr => by
          by_cases hsub : r ⊆ row
          · exact .inl hsub
          · exact .inr (List.mem_filter.mpr ⟨hr, by simpa using hsub⟩)
      omega

end Rows

variable {files : List CodeFile} {k m : Int} {e : Emission} {found : List Emission}

def lineSets (found : List Emission) : List LocationSet :=
  found.flatMap (Emission.windows 1)

/-- The lines of all located blocks, each as often as there are located blocks that it lies in. -/
def coveredLines (found : List Emission) : List Location :=
  (lineSets found).flatten

/-- How often a line is counted again that lies in several located blocks. -/
def recounts (found : List Emission) : Int :=
  (coveredLines found).length - (coveredLines found).dedup.length

theorem mem_lineSets {s : LocationSet} : s ∈ lineSets found ↔
    ∃ e ∈ found, ∃ p : Int, 0 ≤ p ∧ p < e.group.lineCount ∧ s = shift p e.start := by
  simp only [lineSets, List.mem_flatMap, Emission.windows, mem_shifts]
  refine exists_congr fun e => and_congr_right fun _ => ?_
  constructor
  · rintro ⟨p, hp, rfl⟩
    exact ⟨p, by omega, by omega, rfl⟩
  · rintro ⟨p, hp, hpn, rfl⟩
    lift p to ℕ using hp
    exact ⟨p, by omega, rfl⟩

theorem length_windows (k : Int) (e : Emission) :
    (e.windows k).length = (e.group.lineCount - k + 1).toNat := by
  simp [Emission.windows, shifts]

theorem length_flatten_windows (k : Int) (e : Emission) :
    (e.windows k).flatten.length = (e.windows k).length * e.start.length := by
  simp [Emission.windows, shifts, List.length_flatten, Function.comp_def]

theorem duplicatedLines_add_length_windows (hk : 1 ≤ k) (he : e ∈ emitted k m files) :
    e.group.duplicatedLines + (e.windows 1).length = ((e.windows 1).flatten.length : Int) := by
  obtain ⟨last, hcount, -⟩ := exists_run_of_mem_emitted he
  have hlen : ((e.windows 1).length : Int) = e.group.lineCount := by
    rw [length_windows]
    omega
  rw [length_flatten_windows, Group.duplicatedLines, length_occurrences_of_mem_emitted he]
  push_cast
  rw [hlen]
  ring

theorem total_duplicatedLines (hk : 1 ≤ k) (hsub : found ⊆ emitted k m files) :
    Sequence.total (found.map fun e => e.group.duplicatedLines) + (lineSets found).length =
      (coveredLines found).length := by
  induction found with
  | nil => rfl
  | cons e found ih =>
    have hfirst := duplicatedLines_add_length_windows hk (hsub List.mem_cons_self)
    have hrest := ih fun x hx => hsub (List.mem_cons_of_mem _ hx)
    simp only [coveredLines, lineSets, List.flatMap_cons, List.flatten_append, List.length_append,
      List.map_cons, Sequence.total_cons] at hrest ⊢
    push_cast
    omega

/-- The total of a search, from the lines of its located blocks. -/
theorem duplicatedLines_summarize (hk : 1 ≤ k) (m : Int) (files : List CodeFile) :
    (summarize files (byKey ((emitted k m files).map Emission.group))).duplicatedLines +
      (lineSets (emitted k m files)).length = (coveredLines (emitted k m files)).length := by
  have hperm := (perm_byKey ((emitted k m files).map Emission.group)).map Group.duplicatedLines
  rw [← total_duplicatedLines hk (List.Subset.refl _), summarize]
  simp only [Sequence.total_eq_of_perm hperm, List.map_map, Function.comp_def]

/-- The different lines of the located blocks of a search are bounded by the located lines of a search
with smaller windows, since each set of lines lies in a set of lines of the latter. -/
theorem length_dedup_coveredLines_le {k' : Int} (hk' : 1 ≤ k') (hle : k' ≤ k)
    (hw : ((windows k' files).length : Int) ≤ m) (hc : CollisionFree k' files) :
    (coveredLines (emitted k m files)).dedup.length + (lineSets (emitted k' m files)).length ≤
      (lineSets (emitted k m files)).length + (coveredLines (emitted k' m files)).length := by
  apply length_dedup_flatten_le
  · intro s hs
    obtain ⟨e, he, p, -, -, rfl⟩ := mem_lineSets.mp hs
    simpa [shift] using (repeats_of_mem_emitted hk' he).ne_nil
  · intro s hs
    obtain ⟨e, he, p, hp, hpn, rfl⟩ := mem_lineSets.mp hs
    obtain ⟨e', he', q, hq, hqn, hsub⟩ := exists_emitted_line_of_smaller hk' hle hw hc he hp hpn
    exact ⟨_, mem_lineSets.mpr ⟨e', he', q, hq, hqn, rfl⟩, hsub⟩

/-- With smaller windows, no two of which collide and none of which is above the ceiling, the total
of duplicated lines falls by no more than the number of times that the first search counts a line
again; it does not fall where no line lies in two located blocks of the first search. -/
theorem smaller_windows_total_le (settings : Settings) (files : List CodeFile) (k' : Int)
    (hk' : 1 ≤ k') (hle : k' ≤ settings.minLines) (hm : 2 ≤ settings.maxOccurrences)
    (hw : ((windows k' files).length : Int) ≤ settings.maxOccurrences)
    (hc : CollisionFree k' files) :
    ∃ found groups found' groups', Finds settings files found groups ∧
      Finds { settings with minLines := k' } files found' groups' ∧
      (summarize files groups).duplicatedLines ≤
        (summarize files groups').duplicatedLines + recounts found ∧
      ((coveredLines found).Nodup →
        (summarize files groups).duplicatedLines ≤ (summarize files groups').duplicatedLines) := by
  have htotal := duplicatedLines_summarize (hk'.trans hle) settings.maxOccurrences files
  have htotal' := duplicatedLines_summarize hk' settings.maxOccurrences files
  have hlines := length_dedup_coveredLines_le hk' hle hw hc
  refine ⟨_, _, _, _, finds_emitted settings (hk'.trans hle) hm files,
    finds_emitted { settings with minLines := k' } hk' hm files, ?_, fun hnodup => ?_⟩
  · simp only [recounts]
    omega
  · rw [hnodup.dedup] at hlines
    simp only
    omega

/-- Without overlaps: the block of two lines of the nested project adds two lines to the total, and
its lines by themselves add three. -/
theorem nestedFiles_total_not_less : CollisionFree 1 nestedFiles ∧
    ∃ found groups found' groups', Finds { minLines := 2 } nestedFiles found groups ∧
      Finds { minLines := 1 } nestedFiles found' groups' ∧ (coveredLines found).Nodup ∧
      (summarize nestedFiles groups).duplicatedLines ≤
        (summarize nestedFiles groups').duplicatedLines := by
  have hc : CollisionFree 1 nestedFiles := by decide +kernel
  obtain ⟨found, groups, found', groups', hfinds, hfinds', -, htotal⟩ :=
    smaller_windows_total_le { minLines := 2 } nestedFiles 1 (by decide) (by decide) (by decide)
      (by decide) hc
  have hfound := hfinds.findings
  rw [outcome_findings_nestedFiles_two] at hfound
  obtain rfl := Except.ok.inj hfound
  have hnodup : (coveredLines [nestedBlock]).Nodup := by decide
  exact ⟨hc, _, groups, found', groups', hfinds, hfinds', hnodup, htotal hnodup⟩

/-- A project of one file with the same line four times. -/
def uniformFiles : List CodeFile :=
  [⟨⟨.relative, ["a"]⟩, [⟨1, ['x']⟩, ⟨2, ['x']⟩, ⟨3, ['x']⟩, ⟨4, ['x']⟩]⟩]

theorem outcome_detect_uniformFiles_two : (detect { minLines := 2 } uniformFiles).outcome =
    .ok [⟨[⟨"a", 1, 2⟩, ⟨"a", 2, 3⟩, ⟨"a", 3, 4⟩], 2, [['x'], ['x']], .critical⟩] := by
  cbv

theorem outcome_detect_uniformFiles_one : (detect { minLines := 1 } uniformFiles).outcome =
    .ok [⟨[⟨"a", 1, 1⟩, ⟨"a", 2, 2⟩, ⟨"a", 3, 3⟩, ⟨"a", 4, 4⟩], 1, [['x']], .critical⟩] := by
  cbv

/-- The total may fall: windows of two lines of the uniform project overlap and add four duplicated
lines, single lines add three. -/
theorem not_all_totals_grow : ¬ ∀ (settings : Settings) (files : List CodeFile) (k' : Int),
    1 ≤ k' → k' ≤ settings.minLines → 2 ≤ settings.maxOccurrences →
    ((windows k' files).length : Int) ≤ settings.maxOccurrences →
    CollisionFree k' files → CollisionFree settings.minLines files →
    ∃ groups groups', (detect settings files).outcome = .ok groups ∧
      (detect { settings with minLines := k' } files).outcome = .ok groups' ∧
      (summarize files groups).duplicatedLines ≤ (summarize files groups').duplicatedLines := by
  intro hall
  obtain ⟨groups, groups', hd, hd', hle⟩ :=
    hall { minLines := 2 } uniformFiles 1 (by decide) (by decide) (by decide) (by decide)
      (by decide +kernel) (by decide +kernel)
  rw [outcome_detect_uniformFiles_two] at hd
  obtain rfl := Except.ok.inj hd
  rw [outcome_detect_uniformFiles_one] at hd'
  obtain rfl := Except.ok.inj hd'
  exact absurd hle (by decide)

end SourceCensus.Duplication
