import SourceCensus.Proofs.Duplication.Ratio

/-! # The magnitude of the numbers of a search -/

namespace SourceCensus.Duplication

variable {files : List CodeFile} {groups : List Group} {k m : Int} {e : Emission} {g : Group}

theorem lineCount_pos (hk : 1 ≤ k) (he : e ∈ emitted k m files) : 1 ≤ e.group.lineCount := by
  obtain ⟨last, hcount, -⟩ := exists_run_of_mem_emitted he
  omega

theorem length_start_pos (hk : 1 ≤ k) (he : e ∈ emitted k m files) : 1 ≤ e.start.length :=
  List.length_pos_iff.mpr (repeats_of_mem_emitted hk he).ne_nil

/-- A block has no more lines than the project, since it lies in it. -/
theorem lineCount_le_totalLines (hk : 1 ≤ k) (he : e ∈ emitted k m files) :
    e.group.lineCount ≤ (summarize files groups).totalLines := by
  have hrepeats := repeats_of_mem_emitted hk he
  have hpos := lineCount_pos hk he
  obtain ⟨a, ha⟩ := List.exists_mem_of_length_pos (length_start_pos hk he)
  have hfit : Fits files e.group.lineCount a := hrepeats.fits a ha
  let lines := (List.range e.group.lineCount.toNat).map fun j : Nat => Location.shift (j : Int) a
  have hnodup : lines.Nodup := List.nodup_range.map fun i j hij =>
    Int.ofNat_inj.mp (Location.shift_right_injective a hij)
  have hfits : ∀ b ∈ lines, Fits files 1 b := by
    intro b hb
    obtain ⟨j, hj, rfl⟩ := List.mem_map.mp hb
    rw [List.mem_range] at hj
    exact hfit.shift (Int.natCast_nonneg j) (by omega)
  have hle : (lines.length : Int) ≤ (summarize files groups).totalLines :=
    length_le_totalLines hnodup hfits
  simp only [lines, List.length_map, List.length_range] at hle
  omega

/-- Where there are blocks, windows are no longer than the project. -/
theorem length_coveredLines_le_sq (hk : 1 ≤ k) :
    ((coveredLines (emitted k m files)).length : Int) ≤
      (summarize files groups).totalLines * (summarize files groups).totalLines := by
  cases hfound : emitted k m files with
  | nil => exact mul_nonneg totalLines_nonneg totalLines_nonneg
  | cons e rest =>
    have he : e ∈ emitted k m files := hfound ▸ List.mem_cons_self
    obtain ⟨last, hcount, -⟩ := exists_run_of_mem_emitted he
    have hle : e.group.lineCount ≤ (summarize files groups).totalLines :=
      lineCount_le_totalLines hk he
    rw [← hfound]
    calc ((coveredLines (emitted k m files)).length : Int)
        ≤ k * (summarize files groups).totalLines := length_coveredLines_le_mul_totalLines hk
      _ ≤ (summarize files groups).totalLines * (summarize files groups).totalLines :=
        mul_le_mul_of_nonneg_right (by omega) totalLines_nonneg

theorem length_coveredLines (found : List Emission) : (coveredLines found).length =
    (found.map fun e => (e.windows 1).flatten.length).sum := by
  simp [coveredLines, lineSets, List.flatMap_def, List.length_flatten,
    List.map_flatten, Function.comp_def]

/-- A number told of each block that is no more than the lines of the block at all of its places. -/
theorem sum_le_length_coveredLines {found : List Emission} {f : Emission → Nat}
    (h : ∀ e ∈ found, f e ≤ (e.windows 1).flatten.length) :
    (found.map f).sum ≤ (coveredLines found).length := by
  rw [length_coveredLines]
  exact List.sum_le_sum h

theorem length_flatten_windows_one (hk : 1 ≤ k) (he : e ∈ emitted k m files) :
    (e.windows 1).flatten.length = e.group.lineCount.toNat * e.start.length := by
  have hpos := lineCount_pos hk he
  rw [length_flatten_windows, length_windows]
  congr 1
  omega

theorem length_start_le (hk : 1 ≤ k) (he : e ∈ emitted k m files) :
    e.start.length ≤ (e.windows 1).flatten.length := by
  have hpos := lineCount_pos hk he
  rw [length_flatten_windows_one hk he]
  exact Nat.le_mul_of_pos_left _ (by omega)

theorem length_lines_le_length_coveredLines (he : e ∈ emitted k m files) :
    (e.windows 1).flatten.length ≤ (coveredLines (emitted k m files)).length := by
  rw [length_coveredLines]
  exact List.single_le_sum (fun _ _ => Nat.zero_le _) _ (List.mem_map_of_mem he)

/-- The groups of a search, none of whose numbers is above a bound. -/
structure Magnitude (files : List CodeFile) (groups : List Group) (bound : Int) : Prop where
  groups_le : (groups.length : Int) ≤ bound
  duplicatedLines_le : (summarize files groups).duplicatedLines ≤ bound
  files_le : (summarize files groups).files ≤ bound
  lineCount_pos : ∀ g ∈ groups, 1 ≤ g.lineCount
  lineCount_le : ∀ g ∈ groups, g.lineCount ≤ bound
  occurrences_pos : ∀ g ∈ groups, 1 ≤ g.occurrences.length
  occurrences_le : ∀ g ∈ groups, (g.occurrences.length : Int) ≤ bound

/-- Every file that is told of holds a place of a block. -/
theorem files_summarize_le (hk : 1 ≤ k) (m : Int) (files : List CodeFile) :
    (summarize files (byKey ((emitted k m files).map Emission.group))).files ≤
      (coveredLines (emitted k m files)).length := by
  let found := emitted k m files
  let paths := (byKey (found.map Emission.group)).flatMap fun g => g.occurrences.map (·.path)
  have hdedup : paths.eraseDups.length ≤ paths.length :=
    ((Sequence.nodup_eraseDups paths).subperm fun a ha => List.mem_eraseDups.mp ha).length_le
  have hsum : (found.map fun e => e.start.length).sum ≤ (coveredLines found).length :=
    sum_le_length_coveredLines fun e he => length_start_le hk he
  have hlength : paths.length = (found.map fun e => e.start.length).sum := by
    rw [((perm_byKey (found.map Emission.group)).flatMap_right _).length_eq, List.length_flatMap,
      List.map_map]
    congr 1
    apply List.map_congr_left
    intro e he
    simp [length_occurrences_of_mem_emitted he]
  exact Int.ofNat_le.mpr (hdedup.trans (hlength.trans_le hsum))

theorem magnitude_byKey_emitted (hk : 1 ≤ k) (m : Int) (files : List CodeFile) :
    Magnitude files (byKey ((emitted k m files).map Emission.group))
      (coveredLines (emitted k m files)).length := by
  let found := emitted k m files
  have hperm := perm_byKey (found.map Emission.group)
  have hmem {g : Group} (hg : g ∈ byKey (found.map Emission.group)) : ∃ e ∈ found, e.group = g :=
    List.mem_map.mp (hperm.mem_iff.mp hg)
  constructor
  · have hsum : (found.map fun _ => 1).sum ≤ (coveredLines found).length :=
      sum_le_length_coveredLines fun e he => (length_start_pos hk he).trans (length_start_le hk he)
    rw [hperm.length_eq, List.length_map]
    simpa using hsum
  · have htotal := duplicatedLines_summarize hk m files
    omega
  · exact files_summarize_le hk m files
  · intro g hg
    obtain ⟨e, he, rfl⟩ := hmem hg
    exact Duplication.lineCount_pos hk he
  · intro g hg
    obtain ⟨e, he, rfl⟩ := hmem hg
    have hle := length_lines_le_length_coveredLines he
    have hpos := Duplication.lineCount_pos hk he
    rw [length_flatten_windows_one hk he] at hle
    have hmul := Nat.le_mul_of_pos_right e.group.lineCount.toNat (length_start_pos hk he)
    omega
  · intro g hg
    obtain ⟨e, he, rfl⟩ := hmem hg
    rw [length_occurrences_of_mem_emitted he]
    exact length_start_pos hk he
  · intro g hg
    obtain ⟨e, he, rfl⟩ := hmem hg
    have hle := (length_start_le hk he).trans (length_lines_le_length_coveredLines he)
    rw [length_occurrences_of_mem_emitted he]
    omega

end SourceCensus.Duplication
