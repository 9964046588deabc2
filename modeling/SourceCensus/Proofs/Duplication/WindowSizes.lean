import SourceCensus.Proofs.Duplication.Findings

/-! # Searches with smaller windows -/

namespace SourceCensus.Duplication

open LocationSet (shift)

variable {files : List CodeFile} {k m d i n : Int} {s t : LocationSet} {e : Emission}

theorem shift_subset_shift (h : s ⊆ t) (d : Int) : shift d s ⊆ shift d t :=
  List.map_subset _ h

theorem length_occurrences_le_windows (k : Int) (files : List CodeFile) (w : List (List Char)) :
    (occurrences k files w).length ≤ (windows k files).length := by
  rw [windows_eq, List.length_map]
  exact List.length_filter_le _ _

/-- The locations of a repeated window are locations of one window of an emitted block, where no
window is above the ceiling. -/
theorem exists_emitted_of_repeats (hc : CollisionFree k files)
    (hw : ((windows k files).length : Int) ≤ m) (h : Block.Repeats files ⟨s, k⟩) (hs : s.Nodup)
    (h₂ : 2 ≤ s.length) :
    ∃ e ∈ emitted k m files, ∃ j : Int, 0 ≤ j ∧ j ≤ e.group.lineCount - k ∧
      s ⊆ shift j e.start := by
  obtain ⟨first, hfirst⟩ := List.exists_mem_of_ne_nil _ h.ne_nil
  have hsub : s ⊆ occurrences k files (textOf files k first) :=
    fun a ha => mem_occurrences.mpr ⟨h.fits a ha, h.same a ha first hfirst⟩
  have hlen := h₂.trans (hs.subperm hsub).length_le
  have hceiling : ((occurrences k files (textOf files k first)).length : Int) ≤ m := by
    have hall := length_occurrences_le_windows k files (textOf files k first)
    omega
  obtain ⟨e, he, j, hj, hjk, hshift⟩ := exists_emitted_of_occurrences hc hlen hceiling
  exact ⟨e, he, j, hj, hjk, hshift ▸ hsub⟩

section Smaller

variable {k' : Int} (hk' : 1 ≤ k') (hle : k' ≤ k)
  (hw : ((windows k' files).length : Int) ≤ m) (hc : CollisionFree k' files)
  (he : e ∈ emitted k m files)
include hk' hle hw hc he

theorem exists_emitted_of_smaller (hi : 0 ≤ i) (hik : i ≤ e.group.lineCount - k') :
    ∃ e' ∈ emitted k' m files, ∃ j : Int, 0 ≤ j ∧ j ≤ e'.group.lineCount - k' ∧
      shift i e.start ⊆ shift j e'.start := by
  obtain ⟨last, -, hrun⟩ := exists_run_of_mem_emitted he
  obtain ⟨h₂, -, -⟩ := mem_confirmedSets.mp hrun.start_mem
  have hsorted := pairwise_of_mem_confirmedSets hrun.start_mem
  have hwindow := (repeats_of_mem_emitted (hk'.trans hle) he).window hk' hi
    (by omega : i + k' ≤ e.group.lineCount)
  refine exists_emitted_of_repeats hc hw hwindow ?_ (by simpa using h₂)
  exact LocationSet.nodup_of_pairwise_lt (LocationSet.pairwise_shift hsorted i)

/-- Each line of an emitted block lies, at all locations of the block at once, in one line of an
emitted block of a search with smaller windows. -/
theorem exists_emitted_line_of_smaller {p : Int} (hp : 0 ≤ p) (hpn : p < e.group.lineCount) :
    ∃ e' ∈ emitted k' m files, ∃ q : Int, 0 ≤ q ∧ q < e'.group.lineCount ∧
      shift p e.start ⊆ shift q e'.start := by
  obtain ⟨last, hcount, -⟩ := exists_run_of_mem_emitted he
  let i := min p (e.group.lineCount - k')
  obtain ⟨e', he', j, hj, hjk, hsub⟩ :=
    exists_emitted_of_smaller hk' hle hw hc he (by omega : 0 ≤ i) (by omega)
  refine ⟨e', he', j + (p - i), by omega, by omega, ?_⟩
  have hline := shift_subset_shift hsub (p - i)
  rwa [LocationSet.shift_shift, LocationSet.shift_shift, show i + (p - i) = p by omega] at hline

end Smaller

/-- Where no two windows of the smaller size collide and none is above the ceiling, a search with
smaller windows loses no duplicate: for each window of the smaller size in a block of the first
search, and for each line of the block, one group of the second search has all of its locations. -/
theorem smaller_windows_keep_duplicates (settings : Settings) (files : List CodeFile) (k' : Int)
    (hk' : 1 ≤ k') (hle : k' ≤ settings.minLines) (hm : 2 ≤ settings.maxOccurrences)
    (hw : ((windows k' files).length : Int) ≤ settings.maxOccurrences)
    (hc : CollisionFree k' files) :
    ∃ found groups found' groups', Finds settings files found groups ∧
      Finds { settings with minLines := k' } files found' groups' ∧ ∀ e ∈ found,
        (∀ i, 0 ≤ i → i ≤ e.group.lineCount - k' → ∃ e' ∈ found', ∃ j,
          0 ≤ j ∧ j ≤ e'.group.lineCount - k' ∧ shift i e.start ⊆ shift j e'.start) ∧
        (∀ p, 0 ≤ p → p < e.group.lineCount → ∃ e' ∈ found', ∃ q,
          0 ≤ q ∧ q < e'.group.lineCount ∧ shift p e.start ⊆ shift q e'.start) := by
  refine ⟨_, _, _, _, finds_emitted settings (by omega) hm files,
    finds_emitted { settings with minLines := k' } hk' hm files, ?_⟩
  intro e he
  constructor
  · intro i hi hik
    exact exists_emitted_of_smaller hk' hle hw hc he hi hik
  · intro p hp hpn
    exact exists_emitted_line_of_smaller hk' hle hw hc he hp hpn

/-- The two lines of the nested project that stand together at two places. -/
def nestedBlock : Emission :=
  ⟨[⟨0, 0⟩, ⟨1, 0⟩], ⟨[⟨"a", 1, 2⟩, ⟨"b", 1, 2⟩], 2, [['x'], ['y']], .tolerable⟩⟩

theorem outcome_findings_nestedFiles_two :
    (findings { minLines := 2 } nestedFiles).outcome = .ok [nestedBlock] := by
  cbv

/-- The block of two lines of the nested project is found with windows of one line, too, though its
lines do not stand at the same places. -/
theorem nestedFiles_block_kept : CollisionFree 1 nestedFiles ∧ ∃ found groups,
    Finds { minLines := 1 } nestedFiles found groups ∧ ∀ i : Int, 0 ≤ i → i ≤ 1 →
      ∃ e ∈ found, ∃ j, 0 ≤ j ∧ j ≤ e.group.lineCount - 1 ∧
        shift i nestedBlock.start ⊆ shift j e.start := by
  have hc : CollisionFree 1 nestedFiles := by decide +kernel
  obtain ⟨found, _, found', groups', hfinds, hfinds', hall⟩ :=
    smaller_windows_keep_duplicates { minLines := 2 } nestedFiles 1 (by decide) (by decide)
      (by decide) (by decide) hc
  have hfound := hfinds.findings
  rw [outcome_findings_nestedFiles_two] at hfound
  obtain rfl := Except.ok.inj hfound
  exact ⟨hc, found', groups', hfinds', (hall _ List.mem_cons_self).1⟩

end SourceCensus.Duplication
